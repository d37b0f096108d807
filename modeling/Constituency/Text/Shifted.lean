import Constituency.Text.Units

/-!
# Text in seven bits

In UTF-7 most characters of ASCII stand for themselves. All others are written in runs: behind a plus
sign the bits of their units in UTF-16 follow, six in each digit of base 64, and a hyphen ends the run
where a digit or a hyphen comes next. A plus sign is a run without digits.
-/
namespace Constituency.Text.Shifted

/-- The digits of base 64 in their order. -/
def digits : List Char := "ABCDEFGHIJKLMNOPQRSTUVWXYZabcdefghijklmnopqrstuvwxyz0123456789+/".toList

/-- Whether a character is a digit of base 64. -/
def isDigit (c : Char) : Bool := digits.contains c

/-- The last `n` bits of a number, the greatest one in front. -/
def bits (n k : Nat) : List Bool := (List.range n).reverse.map k.testBit

/-- The number of bits. -/
def ofBits (bs : List Bool) : Nat := bs.foldl (fun k b => 2 * k + b.toNat) 0

/-- The numbers of `n + 1` bits each that bits consist of, and the bits that are left over. -/
def numbers (n : Nat) (bs : List Bool) : List Nat × List Bool :=
  if n < bs.length then
    let rest := numbers n (bs.drop (n + 1))
    (ofBits (bs.take (n + 1)) :: rest.1, rest.2)
  else ([], bs)
termination_by bs.length
decreasing_by simp only [List.length_drop]; omega

/-- The text of a run of digits. What is left over must be less than a digit, and zero. -/
def readRun? (run : List Char) : Option (List Char) :=
  let (us, left) := numbers 15 (run.flatMap fun c => bits 6 (digits.idxOf c))
  if left.length < 6 && left.all (!·) then ofUnits? us else none

/-- Read a character, or a run of them. -/
def next (b : UInt8) (bytes : List UInt8) : Step :=
  if 128 ≤ b then .wrong
  else if b ≠ '+'.toUInt8 then .found [Char.ofNat b.toNat] 0
  else
    let run := (bytes.takeWhile fun b => isDigit (Char.ofNat b.toNat)).map fun b => Char.ofNat b.toNat
    match bytes.drop run.length, run with
    | [], _ => .begun (readRun? run)
    | c :: _, [] => if c = '-'.toUInt8 then .found ['+'] 1 else .wrong
    | c :: _, _ =>
        match readRun? run with
        | some chars => .found chars (run.length + if c = '-'.toUInt8 then 1 else 0)
        | none => .wrong

/-- Whether a character stands for itself outside of runs. -/
def isDirect (c : Char) : Bool :=
  c = '\t' || c = '\n' || c = '\r' ||
    (0x20 ≤ c.toNat && c.toNat < 0x7F && c != '+' && c != '\\' && c != '~')

/-- The digits of a run. -/
def writeRun (run : List Char) : List Char :=
  let (ks, left) := numbers 5 ((run.flatMap units).flatMap (bits 16))
  let last := if left.isEmpty then [] else [ofBits (left ++ List.replicate (6 - left.length) false)]
  (ks ++ last).filterMap (digits[·]?)

/-- Write a text; a run begins with any character that does not stand for itself except the plus sign,
and goes on to the next one that does. -/
def write : List Char → List Char
  | [] => []
  | c :: cs =>
      if isDirect c then c :: write cs
      else if c = '+' then '+' :: '-' :: write cs
      else
        let run := c :: cs.takeWhile fun c => !isDirect c
        let rest := cs.dropWhile fun c => !isDirect c
        let hyphen := rest.head?.all fun c => isDigit c || c = '-'
        '+' :: (writeRun run ++ (if hyphen then ['-'] else []) ++ write rest)
termination_by cs => cs.length
decreasing_by
  all_goals simp only [List.length_cons]
  · omega
  · omega
  · exact Nat.lt_succ_of_le (List.dropWhile_sublist _).length_le

end Constituency.Text.Shifted
