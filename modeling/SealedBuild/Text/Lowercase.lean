import SealedBuild.Text.CaseTable

/-!
# Lower case

The full lower-case mapping of Unicode for text without a language. Two characters need
more than the table of single characters: a capital I with a dot becomes two characters,
and a capital sigma becomes a final sigma at the end of a word.
-/

namespace SealedBuild.Text

/-- Whether a code point lies in one of the ranges. -/
def inRanges (ranges : List (Nat × Nat)) (n : Nat) : Bool :=
  ranges.any fun (first, last) => first ≤ n && n ≤ last

/-- The lower case of a character that has exactly one lower-case character; any other
character is its own. -/
def lowerChar (c : Char) : Char :=
  let n := c.toNat
  match caseRuns.find? (fun run =>
      run.first ≤ n && n ≤ run.last && (n - run.first) % run.step == 0) with
  | some run => Char.ofNat ((n : Int) + run.offset).toNat
  | none => c

/-- Whether the nearest character that is not skipped, read away from the sigma, is a
cased one. -/
def meetsCased (context : List Char) : Bool :=
  match context.dropWhile (fun c => inRanges caseIgnorableRanges c.toNat) with
  | [] => false
  | c :: _ => inRanges casedRanges c.toNat

/-- The lower case of a text whose characters before it, nearest first, are `seen`. -/
def lowercaseAfter (seen : List Char) : List Char → List Char
  | [] => []
  | c :: rest =>
    let lower :=
      if c.toNat == 0x3A3 then
        [if meetsCased seen && !meetsCased rest then Char.ofNat 0x3C2 else Char.ofNat 0x3C3]
      else if c.toNat == 0x130 then [Char.ofNat 0x69, Char.ofNat 0x307]
      else [lowerChar c]
    lower ++ lowercaseAfter (c :: seen) rest

/-- The lower case of a string. -/
def lowercase (text : String) : String :=
  String.ofList (lowercaseAfter [] text.toList)

end SealedBuild.Text
