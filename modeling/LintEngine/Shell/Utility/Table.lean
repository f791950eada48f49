import LintEngine.Shell.Awk.Basic
import LintEngine.Shell.StreamEditor.Basic
import LintEngine.Shell.Utility.Columns
import LintEngine.Shell.Utility.Concatenate
import LintEngine.Shell.Utility.Count
import LintEngine.Shell.Utility.Encode
import LintEngine.Shell.Utility.Evaluate
import LintEngine.Shell.Utility.Files
import LintEngine.Shell.Utility.Launch
import LintEngine.Shell.Utility.LineSearch
import LintEngine.Shell.Utility.Sequence
import LintEngine.Shell.Utility.Sorting
import LintEngine.Shell.Utility.Translate

namespace LintEngine.Shell

def utilities : List (String × Utility) :=
  [("cat", Concatenate.cat), ("tac", Concatenate.tac), ("rev", Concatenate.rev),
    ("tee", Concatenate.tee), ("head", Concatenate.head), ("tail", Concatenate.tail),
    ("sort", Sorting.sort), ("cut", Columns.cut), ("paste", Columns.paste), ("fold", Columns.fold),
    ("expand", Columns.expand), ("unexpand", Columns.unexpand), ("comm", Columns.comm),
    ("join", Columns.join), ("tr", Translate.tr), ("wc", Count.wc), ("nl", Count.nl),
    ("uniq", Count.uniq), ("grep", LineSearch.grepWith .basic),
    ("egrep", LineSearch.grepWith .extended), ("fgrep", LineSearch.grepWith .fixed),
    ("sed", StreamEditor.sed),
    ("awk", Awk.awk), ("mawk", Awk.awk), ("seq", Sequence.seq), ("yes", Sequence.yes),
    ("expr", Evaluate.expr), ("base64", Encode.base64), ("od", Encode.od),
    ("true", Launch.idle 0), ("false", Launch.idle 1), ("sync", Launch.idle 0),
    ("echo", Launch.echo), ("printf", Launch.printf), ("test", Launch.test "test"),
    ("[", Launch.bracket), ("pwd", Launch.pwd), ("env", Launch.env),
    ("printenv", Launch.printenv), ("xargs", Launch.xargs), ("sleep", Launch.sleep),
    ("nohup", Launch.wrapper "nohup" "" "" 0 125), ("nice", Launch.wrapper "nice" "" "n" 0 125),
    ("timeout", Launch.wrapper "timeout" "pfv" "ks" 1 125),
    ("stdbuf", Launch.wrapper "stdbuf" "" "ioe" 0 125),
    ("basename", Files.basename), ("dirname", Files.dirname), ("mkdir", Files.mkdir),
    ("rmdir", Files.rmdir), ("rm", Files.rm), ("touch", Files.touch), ("cp", Files.cp),
    ("mv", Files.mv), ("ln", Files.ln), ("mktemp", Files.mktemp), ("ls", Files.ls),
    ("readlink", Files.readlink "readlink" false), ("realpath", Files.readlink "realpath" true),
    ("chmod", Files.onPresent "chmod" "cannot access" 1),
    ("chown", Files.onPresent "chown" "cannot access" 1), ("cmp", Files.cmp),
    ("find", Files.find)]

def utility? (name : Bytes) : Option Utility := utilities.lookup (String.ofList name)

end LintEngine.Shell
