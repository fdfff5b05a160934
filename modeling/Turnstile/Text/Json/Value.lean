import Turnstile.Text.Json.Token

/-!
# JSON values, as far as they go

The value that a text begins with, together with every place at which the text
stops to be JSON: a list or record keeps the parts that were read and the
problem that ended it. Who reads a value in order therefore meets the first
problem first, whether that is one of form or one of content.

In a list or record a comma always announces one more part, which may turn out
not to be there.
-/

namespace Turnstile.Text.Json

set_option autoImplicit false

mutual

inductive Value where
  /-- The text ends before the value begins. -/
  | missing
  | broken (problem : Problem)
  | null
  | bool (value : Bool)
  | number (numeral : Except Problem Numeral)
  | text (pieces : List Piece) (stop : Option Problem)
  | list (items : Items)
  | record (members : Members)

/-- The items of a list, up to its end or to what ended it too early. -/
inductive Items where
  | done (ending : Option Problem)
  | next (item : Value) (rest : Items)

/-- The members of a record, up to its end or to what ended it too early. The
keys are values too, since anything may stand there. -/
inductive Members where
  | done (ending : Option Problem)
  | next (key value : Value) (rest : Members)

end

abbrev Rest (all : List Token) : Type := { rest : List Token // rest.length ≤ all.length }

namespace Rest

def self (all : List Token) : Rest all := ⟨all, Nat.le_refl _⟩

def tail (token : Token) (all : List Token) : Rest (token :: all) := ⟨all, Nat.le_succ _⟩

def widen {some all : List Token} (fits : some.length ≤ all.length) (rest : Rest some) : Rest all :=
  ⟨rest.1, Nat.le_trans rest.2 fits⟩

end Rest

mutual

def readValue (all : List Token) : Value × Rest all :=
  match all with
  | [] => (.missing, .self [])
  | .openList :: rest =>
    match rest with
    | [] => (.list (.done (some .ended)), ⟨[], Nat.zero_le _⟩)
    | .closeList :: rest => (.list (.done none), ⟨rest, by simp only [List.length_cons]; omega⟩)
    | token :: rest =>
      let (items, after) := readItems (token :: rest)
      (.list items, after.widen (Nat.le_succ _))
  | .openRecord :: rest =>
    match rest with
    | [] => (.record (.done (some .ended)), ⟨[], Nat.zero_le _⟩)
    | .closeRecord :: rest => (.record (.done none), ⟨rest, by simp only [List.length_cons]; omega⟩)
    | token :: rest =>
      let (members, after) := readMembers (token :: rest)
      (.record members, after.widen (Nat.le_succ _))
  | .null :: rest => (.null, .tail _ rest)
  | .bool value :: rest => (.bool value, .tail _ rest)
  | .number numeral :: rest => (.number numeral, .tail _ rest)
  | .text pieces stop :: rest => (.text pieces stop, .tail _ rest)
  | .broken problem :: rest => (.broken problem, .tail _ rest)
  | token :: rest => (.broken .malformed, .self (token :: rest))
termination_by (all.length, 0)

def readItems (all : List Token) : Items × Rest all :=
  match readValue all with
  | (item, ⟨rest, fits⟩) =>
    match here : rest with
    | [] => (.next item (.done (some .ended)), ⟨[], Nat.zero_le _⟩)
    | .comma :: rest =>
      have shorter : rest.length < all.length := by
        simp only [List.length_cons] at fits; omega
      let (items, after) := readItems rest
      (.next item items, after.widen (Nat.le_of_lt shorter))
    | .closeList :: rest =>
      (.next item (.done none), ⟨rest, by simp only [List.length_cons] at fits; omega⟩)
    | _ => (.next item (.done (some .malformed)), ⟨rest, by simpa [here] using fits⟩)
termination_by (all.length, 1)

def readMembers (all : List Token) : Members × Rest all :=
  match readValue all with
  | (key, ⟨rest, fits⟩) =>
    match here : rest with
    | [] => (.next key .missing (.done (some .ended)), ⟨[], Nat.zero_le _⟩)
    | .colon :: rest =>
      have shorter : rest.length < all.length := by
        simp only [List.length_cons] at fits; omega
      match readValue rest with
      | (value, ⟨after, within⟩) =>
        match here : after with
        | [] => (.next key value (.done (some .ended)), ⟨[], Nat.zero_le _⟩)
        | .comma :: after =>
          have shorter : after.length < all.length := by
            simp only [List.length_cons] at within; omega
          let (members, after) := readMembers after
          (.next key value members, after.widen (Nat.le_of_lt shorter))
        | .closeRecord :: after =>
          (.next key value (.done none), ⟨after, by simp only [List.length_cons] at within; omega⟩)
        | _ => (.next key value (.done (some .malformed)), ⟨after, by simp only [here] at within ⊢; omega⟩)
    | _ =>
      (.next key (.broken .malformed) (.done (some .malformed)),
        ⟨rest, by simpa [here] using fits⟩)
termination_by (all.length, 1)

end

/-- The value of a whole text, and whether anything comes after it. -/
def read (text : String) : Value × Bool :=
  match readValue (tokens text) with
  | (value, ⟨rest, _⟩) => (value, !rest.isEmpty)

end Turnstile.Text.Json
