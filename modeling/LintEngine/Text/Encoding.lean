namespace LintEngine.Text

/-- The first malformed place in a byte sequence. Without an `extent` the sequence that starts
there is cut off by the end of the input. -/
structure EncodingFault where
  index : Nat
  extent : Option Nat
deriving DecidableEq, Repr

def EncodingFault.message (f : EncodingFault) : String :=
  match f.extent with
  | some n => s!"invalid utf-8 sequence of {n} bytes from index {f.index}"
  | none => s!"incomplete utf-8 byte sequence from index {f.index}"

def isContinuation (b : UInt8) : Bool :=
  0x80 ≤ b && b ≤ 0xBF

def validSecondOfThree (first second : UInt8) : Bool :=
  if first == 0xE0 then 0xA0 ≤ second && second ≤ 0xBF
  else if first == 0xED then 0x80 ≤ second && second ≤ 0x9F
  else isContinuation second

def validSecondOfFour (first second : UInt8) : Bool :=
  if first == 0xF0 then 0x90 ≤ second && second ≤ 0xBF
  else if first == 0xF4 then 0x80 ≤ second && second ≤ 0x8F
  else isContinuation second

def continuationBits (b : UInt8) : Nat :=
  b.toNat % 64

/-- The characters of a byte sequence that starts at `index` of the whole input. -/
def decodeFrom (index : Nat) : List UInt8 → Except EncodingFault (List Char)
  | [] => .ok []
  | a :: rest =>
    if a < 0x80 then
      (decodeFrom (index + 1) rest).map (Char.ofNat a.toNat :: ·)
    else if 0xC2 ≤ a && a ≤ 0xDF then
      match rest with
      | [] => .error ⟨index, none⟩
      | b :: rest =>
        if isContinuation b then
          (decodeFrom (index + 2) rest).map
            (Char.ofNat (a.toNat % 32 * 64 + continuationBits b) :: ·)
        else .error ⟨index, some 1⟩
    else if 0xE0 ≤ a && a ≤ 0xEF then
      match rest with
      | [] => .error ⟨index, none⟩
      | b :: rest =>
        if validSecondOfThree a b then
          match rest with
          | [] => .error ⟨index, none⟩
          | c :: rest =>
            if isContinuation c then
              (decodeFrom (index + 3) rest).map
                (Char.ofNat ((a.toNat % 16 * 64 + continuationBits b) * 64 + continuationBits c)
                  :: ·)
            else .error ⟨index, some 2⟩
        else .error ⟨index, some 1⟩
    else if 0xF0 ≤ a && a ≤ 0xF4 then
      match rest with
      | [] => .error ⟨index, none⟩
      | b :: rest =>
        if validSecondOfFour a b then
          match rest with
          | [] => .error ⟨index, none⟩
          | c :: rest =>
            if isContinuation c then
              match rest with
              | [] => .error ⟨index, none⟩
              | d :: rest =>
                if isContinuation d then
                  (decodeFrom (index + 4) rest).map
                    (Char.ofNat
                      (((a.toNat % 8 * 64 + continuationBits b) * 64 + continuationBits c) * 64 +
                        continuationBits d) :: ·)
                else .error ⟨index, some 3⟩
            else .error ⟨index, some 2⟩
        else .error ⟨index, some 1⟩
    else .error ⟨index, some 1⟩

def decode (bytes : ByteArray) : Except EncodingFault String :=
  (decodeFrom 0 bytes.toList).map String.ofList

end LintEngine.Text
