/-
# Letter Case

Lower and upper case of a text by the full mappings: a character may become a word, and the Greek
capital sigma has a form of its own at the end of a word.
-/
import Deskwork.Text.CaseTable

namespace Deskwork.Text

/-! ## Single characters -/

/-- The image of a character under a list of words and a list of runs. -/
def mapCase (words : List (Nat × List Nat)) (runs : List CaseRun) (c : Char) : List Char :=
  match words.lookup c.toNat with
  | some w => w.map Char.ofNat
  | none =>
    match runs.find? (·.holds c.toNat) with
    | some r => [Char.ofNat (c.toNat + r.shift).toNat]
    | none => [c]

/-- The lower case of a character that stands alone. -/
def lowerChar (c : Char) : List Char :=
  if c.toNat < 0x80 then [c.toLower] else mapCase lowerWords lowerRuns c

/-- The upper case of a character. -/
def upperChar (c : Char) : List Char :=
  if c.toNat < 0x80 then [c.toUpper] else mapCase upperWords upperRuns c

/-! ## The final sigma -/

/-- The Greek capital sigma. -/
def capitalSigma : Char := 'Σ'

/-- Membership of a character in one of the listed ranges. -/
def inRanges (rs : List (Nat × Nat)) (c : Char) : Bool :=
  rs.any fun r => r.1 ≤ c.toNat && c.toNat ≤ r.2

/-- The nearest character that is not skipped is a cased one. -/
def meetsCased (cs : List Char) : Bool :=
  match cs.dropWhile (inRanges skippedRanges) with
  | [] => false
  | c :: _ => inRanges casedRanges c

/-- A sigma is final when a cased letter stands before it and none after it; `before` lists the
characters in front of it, nearest first. -/
def isFinalSigma (before after : List Char) : Bool :=
  meetsCased before && !meetsCased after

/-! ## Texts -/

/-- The lower case of the characters that follow `before`. -/
def lowerFrom (before : List Char) : List Char → List Char
  | [] => []
  | c :: rest =>
    let image :=
      if c == capitalSigma then [if isFinalSigma before rest then 'ς' else 'σ'] else lowerChar c
    image ++ lowerFrom (c :: before) rest

/-- The lower case of a text. -/
def lower (s : String) : String :=
  String.ofList (lowerFrom [] s.toList)

/-- The upper case of a text. -/
def upper (s : String) : String :=
  String.ofList (s.toList.flatMap upperChar)

/-- A sigma at the end of a word takes its final form, one that stands alone does not. -/
example : lower "ΟΣ Σ" = "ος σ" := by decide +kernel

end Deskwork.Text
