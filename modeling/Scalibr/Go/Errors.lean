import Mathlib.Data.String.Basic
import Mathlib.Data.List.Infix

/-!
Go `error` values as the scan code builds and reads them: `errors.New`, `errors.Join`,
`fmt.Errorf` with `%w`, and `multierr.Append`. An error is observed through its text,
`Error()`, and through the errors it wraps, `Unwrap()`; a nil error is `none`. The
`fmt` verbs the code formats with, `%v` of a string slice and `%q`, close the module.
-/

namespace Scalibr.Go

/-- A non-nil Go error: its text, the errors it wraps, and whether it is a `multierr`
list, whose wrapped errors `multierr.Append` splices instead of nesting. -/
inductive GoError where
  | mk (text : String) (wrapped : List GoError) (multi : Bool)

namespace GoError

/-- `err.Error()`. -/
def msg : GoError → String
  | mk text _ _ => text

/-- The errors `err` wraps: `Unwrap()`, or `Errors()` of a `multierr` list. -/
def unwrap : GoError → List GoError
  | mk _ wrapped _ => wrapped

def isMulti : GoError → Bool
  | mk _ _ multi => multi

def new (text : String) : GoError := mk text [] false

@[simp] theorem msg_mk (text : String) (w : List GoError) (m : Bool) :
    (mk text w m).msg = text := rfl

@[simp] theorem unwrap_mk (text : String) (w : List GoError) (m : Bool) :
    (mk text w m).unwrap = w := rfl

@[simp] theorem msg_new (text : String) : (new text).msg = text := rfl

/-- The errors a `multierr` list contributes when appended to: its own list, or itself. -/
def errors (e : GoError) : List GoError :=
  if e.isMulti then e.unwrap else [e]

end GoError

/-- `errors.Join(errs...)`: nil when there is nothing to join, otherwise an error wrapping
exactly `errs` whose text is their texts one to a line. -/
def errorsJoin (errs : List GoError) : Option GoError :=
  if errs.isEmpty then none else some (.mk ("\n".intercalate (errs.map GoError.msg)) errs false)

/-- `multierr.Append(left, right)`: either side when the other is nil, otherwise a
`multierr` list of both sides' errors whose text is theirs joined by `"; "`. -/
def multierrAppend : Option GoError → Option GoError → Option GoError
  | none, right => right
  | left, none => left
  | some left, some right =>
      some (.mk (left.msg ++ "; " ++ right.msg) (left.errors ++ right.errors) true)

theorem errorsJoin_eq_none {errs : List GoError} : errorsJoin errs = none ↔ errs = [] := by
  cases errs <;> simp [errorsJoin]

@[simp] theorem multierrAppend_none_left (r : Option GoError) : multierrAppend none r = r := by
  cases r <;> rfl

@[simp] theorem multierrAppend_none_right (l : Option GoError) :
    multierrAppend l none = l := by
  cases l <;> rfl

/-- `multierr.Append` fails exactly when one of its sides did. -/
theorem multierrAppend_eq_none {l r : Option GoError} :
    multierrAppend l r = none ↔ l = none ∧ r = none := by
  cases l <;> cases r <;> simp [multierrAppend]

def stringsContains (s substr : String) : Prop :=
  List.IsInfix substr.toList s.toList

instance (s substr : String) : Decidable (stringsContains s substr) :=
  List.decidableInfix _ _

theorem stringsContains_refl (s : String) : stringsContains s s :=
  List.infix_refl s.toList

theorem stringsContains.trans {s t u : String} (hst : stringsContains s t)
    (htu : stringsContains t u) : stringsContains s u :=
  List.IsInfix.trans htu hst

theorem stringsContains_append_left (s t : String) : stringsContains (s ++ t) s :=
  ⟨[], t.toList, rfl⟩

theorem stringsContains_append_right (s t : String) : stringsContains (s ++ t) t :=
  ⟨s.toList, [], List.append_nil _⟩

/-- `multierr.Append` keeps the text of every error it is given. -/
theorem multierrAppend_contains {l r : Option GoError} {e : GoError}
    (he : e ∈ l.toList ++ r.toList) :
    ∃ j, multierrAppend l r = some j ∧ stringsContains j.msg e.msg := by
  rcases l with _ | l <;> rcases r with _ | r <;>
    simp only [Option.toList_none, Option.toList_some, List.nil_append, List.append_nil,
      List.mem_singleton, List.cons_append, List.mem_cons, List.not_mem_nil, or_false] at he
  · exact ⟨r, rfl, he ▸ stringsContains_refl r.msg⟩
  · exact ⟨l, rfl, he ▸ stringsContains_refl l.msg⟩
  · refine ⟨_, rfl, ?_⟩
    rcases he with rfl | rfl
    · exact (stringsContains_append_left _ _).trans (stringsContains_append_left _ _)
    · exact stringsContains_append_right _ _

/-- `strings.Join` through `String.intercalate`: the result contains every part. -/
private theorem intercalateGo_contains (sep : String) :
    ∀ (acc : String) (xs : List String), stringsContains (String.intercalate.go acc sep xs) acc ∧
      ∀ x ∈ xs, stringsContains (String.intercalate.go acc sep xs) x
  | acc, [] => ⟨stringsContains_refl acc, by simp⟩
  | acc, a :: as => by
      obtain ⟨hacc, has⟩ := intercalateGo_contains sep (acc ++ sep ++ a) as
      refine ⟨hacc.trans ((stringsContains_append_left _ _).trans
        (stringsContains_append_left _ _)), fun x hx => ?_⟩
      rcases List.mem_cons.1 hx with rfl | hx
      · exact hacc.trans (stringsContains_append_right _ _)
      · exact has x hx

theorem intercalate_contains {sep x : String} {xs : List String} (hx : x ∈ xs) :
    stringsContains (sep.intercalate xs) x := by
  cases xs with
  | nil => cases hx
  | cons a as =>
      rcases List.mem_cons.1 hx with rfl | hx
      · exact (intercalateGo_contains sep x as).1
      · exact (intercalateGo_contains sep a as).2 x hx

/-- `errors.Join` keeps the text of every error it joins. -/
theorem errorsJoin_contains {errs : List GoError} {j : GoError} (h : errorsJoin errs = some j)
    {e : GoError} (he : e ∈ errs) : stringsContains j.msg e.msg := by
  unfold errorsJoin at h
  split_ifs at h
  cases h
  exact intercalate_contains (List.mem_map_of_mem GoError.msg he)

/-! ### Formatting -/

/-- `fmt.Sprintf("%v", xs)` for a string slice: the elements between brackets,
separated by single blanks. -/
def sprintV (xs : List String) : String :=
  "[" ++ " ".intercalate xs ++ "]"

/-- `strconv.IsPrint`. The code decides Latin-1 itself: the space and the ASCII graphic
runes, and `¡` through `ÿ` but the soft hyphen. Above U+00FF it reads Unicode tables that
are generated outside src/; `printable` stands for that lookup. -/
def isPrint (printable : Char → Bool) (c : Char) : Bool :=
  let n := c.toNat
  if n ≤ 0xFF then (0x20 ≤ n && n ≤ 0x7E) || (0xA1 ≤ n && n != 0xAD) else printable c

/-- The last `k` hexadecimal digits of `n`, most significant first, from `lowerhex`. -/
def hexDigits (n : Nat) : Nat → List Char
  | 0 => []
  | k + 1 => hexDigits (n / 16) k ++ [Nat.digitChar (n % 16)]

/-- `appendEscapedRune` as `strconv.Quote` calls it: the quote and the backslash escaped, a
printable rune as it is, then the named escapes, `\xNN` for the other control characters,
and `\uNNNN` or `\UNNNNNNNN` for every other rune. A Go string may also hold bytes that are
not UTF-8, which `Quote` writes as `\xNN`; a Lean string holds none. -/
def quoteRune (printable : Char → Bool) (c : Char) : String :=
  let n := c.toNat
  if n = 34 then "\\\"" else if n = 92 then "\\\\"
  else if isPrint printable c then c.toString
  else if n = 7 then "\\a" else if n = 8 then "\\b" else if n = 12 then "\\f"
  else if n = 10 then "\\n" else if n = 13 then "\\r" else if n = 9 then "\\t"
  else if n = 11 then "\\v"
  else if n < 0x20 ∨ n = 0x7F then "\\x" ++ String.mk (hexDigits n 2)
  else if n < 0x10000 then "\\u" ++ String.mk (hexDigits n 4)
  else "\\U" ++ String.mk (hexDigits n 8)

/-- `fmt.Sprintf("%q", s)`, that is `strconv.Quote(s)`: `s` between double quotes, each
rune written by `quoteRune`. -/
def sprintQ (printable : Char → Bool) (s : String) : String :=
  "\"" ++ String.join (s.toList.map (quoteRune printable)) ++ "\""

example : sprintQ (fun _ => true) "a\u00ad\n\x7f" = "\"a\\u00ad\\n\\x7f\"" := by decide

end Scalibr.Go
