/-
# Tokens

Texts with tokens between percent signs. A token is replaced by the value of its name; names are
tried one after the other, so that a value may complete a later token.
-/
import Deskwork.Text.Blank
import Deskwork.Text.Substitute
import Deskwork.Time.Iso

namespace Deskwork.Template

open Deskwork.Text

/-! ## Replacing tokens -/

/-- The token of a name. -/
def token (name : String) : String := "%" ++ name ++ "%"

/-- The text with the token of a name replaced. -/
def fill (text name value : String) : String :=
  replace text (token name) value

/-- The text with the tokens of all names replaced, one name after the other. -/
def fillAll (text : String) (values : List (String × String)) : String :=
  values.foldl (fun t v => fill t v.1 v.2) text

/-- Nothing is replaced without names. -/
theorem fillAll_nil (text : String) : fillAll text [] = text := rfl

/-- The names are tried in order. -/
theorem fillAll_cons (text : String) (v : String × String) (rest : List (String × String)) :
    fillAll text (v :: rest) = fillAll (fill text v.1 v.2) rest := rfl

/-- A text may hold tokens: it is not blank and has a percent sign. -/
def mayHoldTokens (text : String) : Bool :=
  !allBlank text && text.toList.contains '%'

/-! ## The standard names -/

/-- The standard names and their values: the moment as a whole and in parts, the user and the
computer. -/
def standardValues (now : Time.Moment) (user computer : String) : List (String × String) :=
  let date := now.shortDate "-"
  let time := now.clock "-"
  [("date", date), ("time", time), ("datetime", date ++ "_" ++ time),
    ("timestamp", now.shortDate "" ++ now.clock ""), ("user", user), ("computer", computer),
    ("year", toString now.date.year), ("month", Time.padded 2 now.date.month),
    ("day", Time.padded 2 now.date.day), ("hour", Time.padded 2 now.time.hour),
    ("minute", Time.padded 2 now.time.minute), ("second", Time.padded 2 now.time.second)]

end Deskwork.Template
