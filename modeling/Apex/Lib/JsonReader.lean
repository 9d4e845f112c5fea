import Apex.Lib.Json

/-!
A reader of JSON documents, one character at a time.

The reader is a pushdown machine: its mode says what may come next, its frames
are the arrays and objects that are still open. Reading is a fold over the
text, so what the reader has made of a prefix determines how it reads the rest
(`feed_append`). That is what statements about torn texts need: `parse_render`
says that a rendered document reads back as itself, and `parse_torn_object`
that no proper beginning of a rendered object reads as a document.

Numbers with a fraction or an exponent are refused, as `Json` has none.
-/

namespace Apex.JsonReader

open Json List Option

variable {reader : Reader} {document : Json}

/-- An array or object that is still open, with what was read of it, the last
read first. -/
inductive Frame where
  /-- Between the brackets of an array. -/
  | inArray (items : List Json)
  /-- In an object, where a key is due. -/
  | inObject (members : List (String × Json))
  /-- In an object, where the value of `key` is due. -/
  | inMember (members : List (String × Json)) (key : String)

/-- What the reader is in the middle of. -/
inductive Mode where
  /-- A value is due. -/
  | value
  /-- The first item of an array, or its end. -/
  | firstItem
  /-- The first key of an object, or its end. -/
  | firstKey
  /-- A key is due. -/
  | nextKey
  /-- The colon after a key. -/
  | colon (key : String)
  /-- Inside a string; `isKey` tells a key from a value. -/
  | text (seen : List Char) (isKey : Bool)
  /-- After a backslash. -/
  | escape (seen : List Char) (isKey : Bool)
  /-- In the four digits of a Unicode escape; `due` of them are missing. -/
  | unicode (seen : List Char) (isKey : Bool) (code due : Nat)
  /-- After a minus sign. -/
  | minus
  /-- In the digits of a number. -/
  | number (negative : Bool) (magnitude : Nat)
  /-- Inside `null`, `true` or `false`. -/
  | literal (due : List Char) (document : Json)
  /-- After a whole value. -/
  | done (document : Json)

/-- The state of the reader. -/
structure Reader where
  mode : Mode
  frames : List Frame

/-- The whitespace JSON allows between tokens. -/
def isSpace (c : Char) : Bool :=
  c = ' ' || c = '\t' || c = '\n' || c = '\r'

/-- The value of a hexadecimal digit of either case. -/
def hexValue (c : Char) : Option Nat :=
  if '0' ≤ c ∧ c ≤ '9' then some (c.toNat - '0'.toNat)
  else if 'a' ≤ c ∧ c ≤ 'f' then some (c.toNat - 'a'.toNat + 10)
  else if 'A' ≤ c ∧ c ≤ 'F' then some (c.toNat - 'A'.toNat + 10)
  else none

/-- The character a one-letter escape stands for. -/
def unescape : Char → Option Char
  | '"' => some '"'
  | '\\' => some '\\'
  | '/' => some '/'
  | 'b' => some '\x08'
  | 'f' => some '\x0c'
  | 'n' => some '\n'
  | 'r' => some '\r'
  | 't' => some '\t'
  | _ => none

/-- The end of a string: a key waits for its colon, a value is done. -/
def closeText (seen : List Char) (isKey : Bool) (frames : List Frame) : Reader :=
  let content := String.ofList seen.reverse
  if isKey then ⟨.colon content, frames⟩ else ⟨.done (.str content), frames⟩

/-- The integer behind a number's sign and digits. -/
def signed (negative : Bool) (magnitude : Nat) : Json :=
  .int (if negative then -(magnitude : Int) else magnitude)

/-- The first character of a value. -/
def startValue (frames : List Frame) (c : Char) : Option Reader :=
  if c = '"' then some ⟨.text [] false, frames⟩
  else if c = '\x7b' then some ⟨.firstKey, .inObject [] :: frames⟩
  else if c = '[' then some ⟨.firstItem, .inArray [] :: frames⟩
  else if c = '-' then some ⟨.minus, frames⟩
  else if c.isDigit then some ⟨.number false (c.toNat - '0'.toNat), frames⟩
  else if c = 'n' then some ⟨.literal "ull".toList .null, frames⟩
  else if c = 't' then some ⟨.literal "rue".toList (.bool true), frames⟩
  else if c = 'f' then some ⟨.literal "alse".toList (.bool false), frames⟩
  else none

/-- The character after a value: a separator or the end of what is open. -/
def afterValue (document : Json) (frames : List Frame) (c : Char) : Option Reader :=
  match frames with
  | .inArray items :: rest =>
      if c = ',' then some ⟨.value, .inArray (document :: items) :: rest⟩
      else if c = ']' then some ⟨.done (.arr (document :: items).reverse), rest⟩
      else none
  | .inMember members key :: rest =>
      if c = ',' then some ⟨.nextKey, .inObject ((key, document) :: members) :: rest⟩
      else if c = '\x7d' then some ⟨.done (.obj ((key, document) :: members).reverse), rest⟩
      else none
  | _ => none

/-- One character read. -/
def step (reader : Reader) (c : Char) : Option Reader :=
  let frames := reader.frames
  match reader.mode with
  | .value => if isSpace c then some reader else startValue frames c
  | .firstItem =>
      if isSpace c then some reader
      else if c = ']' then
        match frames with
        | .inArray _ :: rest => some ⟨.done (.arr []), rest⟩
        | _ => none
      else startValue frames c
  | .firstKey =>
      if isSpace c then some reader
      else if c = '\x7d' then
        match frames with
        | .inObject _ :: rest => some ⟨.done (.obj []), rest⟩
        | _ => none
      else if c = '"' then some ⟨.text [] true, frames⟩
      else none
  | .nextKey =>
      if isSpace c then some reader
      else if c = '"' then some ⟨.text [] true, frames⟩
      else none
  | .colon key =>
      if isSpace c then some reader
      else if c = ':' then
        match frames with
        | .inObject members :: rest => some ⟨.value, .inMember members key :: rest⟩
        | _ => none
      else none
  | .text seen isKey =>
      if c = '"' then some (closeText seen isKey frames)
      else if c = '\\' then some ⟨.escape seen isKey, frames⟩
      else if c.toNat < 32 then none
      else some ⟨.text (c :: seen) isKey, frames⟩
  | .escape seen isKey =>
      if c = 'u' then some ⟨.unicode seen isKey 0 4, frames⟩
      else (unescape c).map fun plain => ⟨.text (plain :: seen) isKey, frames⟩
  | .unicode seen isKey code due =>
      match hexValue c with
      | none => none
      | some digit =>
          if due ≤ 1 then
            -- Surrogate halves are refused: nothing modelled here writes them.
            if (code * 16 + digit).isValidChar then
              some ⟨.text (Char.ofNat (code * 16 + digit) :: seen) isKey, frames⟩
            else none
          else some ⟨.unicode seen isKey (code * 16 + digit) (due - 1), frames⟩
  | .minus =>
      if c.isDigit ∧ c ≠ '0' then some ⟨.number true (c.toNat - '0'.toNat), frames⟩ else none
  | .number negative magnitude =>
      if c.isDigit then
        -- A number does not go on after a leading zero.
        if magnitude = 0 then none
        else some ⟨.number negative (magnitude * 10 + (c.toNat - '0'.toNat)), frames⟩
      else if isSpace c then some ⟨.done (signed negative magnitude), frames⟩
      else afterValue (signed negative magnitude) frames c
  | .literal due document =>
      match due with
      | [] => none
      | [last] => if c = last then some ⟨.done document, frames⟩ else none
      | next :: rest => if c = next then some ⟨.literal rest document, frames⟩ else none
  | .done document => if isSpace c then some reader else afterValue document frames c

/-- A text read from a given state on. -/
def feed : Reader → List Char → Option Reader
  | reader, [] => some reader
  | reader, c :: rest => (step reader c).bind fun next => feed next rest

/-- A number ends where the text does. -/
def settle (reader : Reader) : Reader :=
  match reader.mode with
  | .number negative magnitude => ⟨.done (signed negative magnitude), reader.frames⟩
  | _ => reader

/-- The document of a text that has been read to its end. -/
def finish (reader : Reader) : Option Json :=
  match settle reader with
  | ⟨.done document, []⟩ => some document
  | _ => none

/-- The reader before the first character. -/
def start : Reader :=
  ⟨.value, []⟩

/-- The document a text holds. -/
def parse (text : List Char) : Option Json :=
  (feed start text).bind finish

example : (parse " \x7b\"a\" : [ -12 , \"\\u0041\\n\" , 0 ]\x7d ".toList).map toText =
    some "\x7b\"a\":[-12,\"A\\n\",0]\x7d" := by decide +kernel

theorem feed_append (reader : Reader) (first second : List Char) :
    feed reader (first ++ second) = (feed reader first).bind fun next => feed next second := by
  induction first generalizing reader with
  | nil => rfl
  | cons c rest ih => simp only [cons_append, feed, ih, bind_assoc]

/-! ### What the writer writes, the reader reads -/

theorem hexValue_hexDigit : ∀ digit < 16, hexValue (hexDigit digit) = some digit := by decide

/-- The ways a character stands in a literal: behind a backslash, as its code, or as
it is. -/
inductive Escaped (c : Char) : List Char → Prop where
  | short {letter} (reads : unescape letter = some c) (other : letter ≠ 'u')
      (printable : 32 ≤ letter.toNat) : Escaped c ['\\', letter]
  | code (control : c.toNat < 32) :
      Escaped c ['\\', 'u', '0', '0', hexDigit (c.toNat / 16), hexDigit (c.toNat % 16)]
  | plain (quote : c ≠ '"') (backslash : c ≠ '\\') (printable : 32 ≤ c.toNat) : Escaped c [c]

theorem escaped_escapeChar (c : Char) : Escaped c (escapeChar c) := by
  have named {code : Nat} {letter : Char} (is : c.toNat = code)
      (reads : unescape letter = some (Char.ofNat code)) : unescape letter = some c := by
    rw [reads, ← is, Char.ofNat_toNat]
  unfold escapeChar
  split_ifs with quote backslash is is is is is control
  · exact .short (congrArg some quote.symm) (by decide) (by decide)
  · exact .short (congrArg some backslash.symm) (by decide) (by decide)
  · exact .short (named is rfl) (by decide) (by decide)
  · exact .short (named is rfl) (by decide) (by decide)
  · exact .short (named is rfl) (by decide) (by decide)
  · exact .short (named is rfl) (by decide) (by decide)
  · exact .short (named is rfl) (by decide) (by decide)
  · exact .code control
  · exact .plain quote backslash (Nat.not_lt.mp control)

theorem feed_escapeChar (seen : List Char) (isKey : Bool) (frames : List Frame) (c : Char) :
    feed ⟨.text seen isKey, frames⟩ (escapeChar c) = some ⟨.text (c :: seen) isKey, frames⟩ := by
  have escaped := escaped_escapeChar c
  generalize escapeChar c = text at escaped
  cases escaped with
  | @short letter reads other _ =>
    have opened : step ⟨.text seen isKey, frames⟩ '\\' = some ⟨.escape seen isKey, frames⟩ := rfl
    have read : step ⟨.escape seen isKey, frames⟩ letter =
        some ⟨.text (c :: seen) isKey, frames⟩ := by
      simp only [step, if_neg other, reads, map_some]
    simp only [feed, opened, read, bind_some]
  | code control =>
    have opened : feed ⟨.text seen isKey, frames⟩ ['\\', 'u', '0', '0'] =
        some ⟨.unicode seen isKey 0 2, frames⟩ := rfl
    have high := hexValue_hexDigit (c.toNat / 16) (by omega)
    have low := hexValue_hexDigit (c.toNat % 16) (by omega)
    have code : c.toNat / 16 * 16 + c.toNat % 16 = c.toNat := by omega
    have valid : c.toNat.isValidChar := c.valid
    have split : ['\\', 'u', '0', '0', hexDigit (c.toNat / 16), hexDigit (c.toNat % 16)] =
        ['\\', 'u', '0', '0'] ++ [hexDigit (c.toNat / 16), hexDigit (c.toNat % 16)] := rfl
    rw [split, feed_append, opened]
    simp [feed, step, high, low, code, valid]
  | plain quote backslash printable =>
    have control : ¬ c.toNat < 32 := Nat.not_lt.mpr printable
    simp only [feed, step, if_neg quote, if_neg backslash, if_neg control, bind_some]

theorem feed_escaped (seen : List Char) (isKey : Bool) (frames : List Frame) (cs : List Char) :
    feed ⟨.text seen isKey, frames⟩ (cs.flatMap escapeChar) =
      some ⟨.text (cs.reverse ++ seen) isKey, frames⟩ := by
  induction cs generalizing seen with
  | nil => rfl
  | cons c rest ih =>
    rw [flatMap_cons, feed_append, feed_escapeChar, bind_some, ih]
    simp

/-- A string literal, from the character after its opening quote. -/
theorem feed_renderString (isKey : Bool) (frames : List Frame) (value : String) :
    feed ⟨.text [] isKey, frames⟩ (value.toList.flatMap escapeChar ++ ['"']) =
      some (closeText value.toList.reverse isKey frames) := by
  rw [feed_append, feed_escaped, bind_some]
  simp [feed, step]

/-- The digits of a positive number, where a digit may stand first. -/
theorem feed_toDigits {negative frames} (first : ∀ digit < 10, digit ≠ 0 →
      step reader (Nat.digitChar digit) = some ⟨.number negative digit, frames⟩) (n : Nat)
    (positive : n ≠ 0) :
    feed reader (Nat.toDigits 10 n) = some ⟨.number negative n, frames⟩ := by
  induction n using Nat.strong_induction_on with
  | _ n ih =>
    by_cases small : n < 10
    · rw [Nat.toDigits_of_lt_base small]
      simp [feed, first n small positive]
    · have digit : ∀ d < 10, (Nat.digitChar d).isDigit ∧ (Nat.digitChar d).toNat - 48 = d := by
        decide
      obtain ⟨isDigit, value⟩ := digit (n % 10) (Nat.mod_lt n (by decide))
      have nonzero : n / 10 ≠ 0 := by omega
      have joined : n / 10 * 10 + n % 10 = n := by omega
      rw [Nat.toDigits_of_base_le (by decide) (by omega), feed_append,
        ih (n / 10) (by omega) nonzero]
      simp [feed, step, isDigit, nonzero, value, joined]

theorem feed_renderInt (frames : List Frame) (value : Int) :
    ∃ negative magnitude, signed negative magnitude = .int value ∧
      feed ⟨.value, frames⟩ (renderInt value) = some ⟨.number negative magnitude, frames⟩ := by
  cases value with
  | ofNat n =>
    refine ⟨false, n, by simp [signed], ?_⟩
    by_cases zero : n = 0
    · subst zero; rfl
    · refine feed_toDigits (fun digit small _ => ?_) n zero
      interval_cases digit <;> rfl
  | negSucc n =>
    refine ⟨true, n + 1, by simp [signed, Int.negSucc_eq], ?_⟩
    change feed ⟨.minus, frames⟩ (Nat.toDigits 10 (n + 1)) = _
    refine feed_toDigits (fun digit small nonzero => ?_) (n + 1) (by omega)
    interval_cases digit
    · exact absurd rfl nonzero
    all_goals rfl

/-- The reader has read a whole value, up to the end of a number. -/
def HasRead (reader : Reader) (document : Json) (frames : List Frame) : Prop :=
  settle reader = ⟨.done document, frames⟩

/-- Whatever is not a digit ends the value that was read. -/
theorem HasRead.step_eq {frames} (read : HasRead reader document frames) {c : Char}
    (stop : c.isDigit = false) :
    step reader c = step ⟨.done document, frames⟩ c := by
  obtain ⟨mode, open_⟩ := reader
  cases mode with
  | number negative magnitude =>
    obtain ⟨rfl, rfl⟩ : signed negative magnitude = document ∧ open_ = frames := by
      simpa [HasRead, settle] using read
    simp [step, stop]
  | _ => exact congrArg (step · c) read

theorem isSpace_of_isDigit {c : Char} (digit : c.isDigit = true) : isSpace c = false := by
  by_contra space
  simp only [isSpace, Bool.not_eq_false, Bool.or_eq_true, decide_eq_true_eq] at space
  rcases space with ((rfl | rfl) | rfl) | rfl <;> exact absurd digit (by decide)

/-- A rendered value starts with a character that starts a value. -/
theorem render_head (document : Json) :
    ∃ c rest, render document = c :: rest ∧ c ≠ ']' ∧ isSpace c = false := by
  have digits (n : Nat) :
      ∃ c rest, Nat.toDigits 10 n = c :: rest ∧ c ≠ ']' ∧ isSpace c = false := by
    obtain ⟨c, rest, split⟩ := List.exists_cons_of_ne_nil (Nat.toDigits_ne_nil (n := n) (b := 10))
    have digit : c.isDigit := Nat.isDigit_of_mem_toDigits (b := 10) (n := n) (by decide) le_rfl
      (by rw [split]; exact mem_cons_self)
    refine ⟨c, rest, split, ?_, isSpace_of_isDigit digit⟩
    rintro rfl
    exact absurd digit (by decide)
  cases document with
  | int value =>
    cases value with
    | ofNat n => exact digits n
    | negSucc n => exact ⟨'-', _, rfl, by decide, by decide⟩
  | bool value => cases value <;> exact ⟨_, _, rfl, by decide, by decide⟩
  | null | str | arr | obj => exact ⟨_, _, rfl, by decide, by decide⟩

/-- The first item of an array is read as any other value. -/
theorem feed_firstItem (frames : List Frame) (document : Json) (rest : List Char) :
    feed ⟨.firstItem, frames⟩ (render document ++ rest) =
      feed ⟨.value, frames⟩ (render document ++ rest) := by
  obtain ⟨c, tail, split, notEnd, notSpace⟩ := render_head document
  simp [split, feed, step, notEnd, notSpace]

/-- A key and its colon. -/
theorem feed_key (frames : List Frame) (read : List (String × Json)) (key : String)
    (rest : List Char) :
    feed ⟨.nextKey, .inObject read :: frames⟩ (renderString key ++ ':' :: rest) =
      feed ⟨.value, .inMember read key :: frames⟩ rest := by
  have fed := feed_renderString true (.inObject read :: frames) key
  rw [feed_append]
  change (feed ⟨.text [] true, .inObject read :: frames⟩
    (key.toList.flatMap escapeChar ++ ['"'])).bind _ = _
  rw [fed]
  simp [feed, closeText, step, isSpace]

mutual

theorem feed_render (frames : List Frame) : ∀ document : Json,
    ∃ reader, feed ⟨.value, frames⟩ (render document) = some reader ∧
      HasRead reader document frames
  | .null => ⟨_, rfl, rfl⟩
  | .bool true => ⟨_, rfl, rfl⟩
  | .bool false => ⟨_, rfl, rfl⟩
  | .int value => by
      obtain ⟨negative, magnitude, is, fed⟩ := feed_renderInt frames value
      exact ⟨_, fed, by simp [HasRead, settle, is]⟩
  | .str value => by
      refine ⟨_, feed_renderString false frames value, ?_⟩
      simp [HasRead, closeText, settle]
  | .arr items => by
      refine ⟨⟨.done (.arr items), frames⟩, ?_, rfl⟩
      have fed := feed_renderItems frames [] items
      match items, fed with
      | [], _ => rfl
      | [item], fed => exact (feed_firstItem _ item _).trans (fed (by simp))
      | item :: _ :: _, fed => exact (feed_firstItem _ item _).trans (fed (by simp))
  | .obj members => by
      refine ⟨⟨.done (.obj members), frames⟩, ?_, rfl⟩
      have fed := feed_renderMembers frames [] members
      match members, fed with
      | [], _ => rfl
      | [_], fed => exact fed (by simp)
      | _ :: _ :: _, fed => exact fed (by simp)

/-- The items of an array, from where one of them is due. -/
theorem feed_renderItems (frames : List Frame) (read : List Json) : ∀ items : List Json,
    items ≠ [] → feed ⟨.value, .inArray read :: frames⟩ (renderItems items) =
      some ⟨.done (.arr (read.reverse ++ items)), frames⟩
  | [], nonempty => absurd rfl nonempty
  | [item], _ => by
      obtain ⟨reader, fed, has⟩ := feed_render (.inArray read :: frames) item
      rw [renderItems, feed_append, fed, bind_some, feed, has.step_eq (by decide)]
      simp [step, isSpace, afterValue, feed]
  | item :: next :: rest, _ => by
      obtain ⟨reader, fed, has⟩ := feed_render (.inArray read :: frames) item
      have later := feed_renderItems frames (item :: read) (next :: rest) (by simp)
      rw [renderItems, feed_append, fed, bind_some, feed, has.step_eq (by decide)]
      · simpa [step, isSpace, afterValue] using later
      · simp

/-- The members of an object, from where a key is due. -/
theorem feed_renderMembers (frames : List Frame) (read : List (String × Json)) :
    ∀ members : List (String × Json), members ≠ [] →
      feed ⟨.nextKey, .inObject read :: frames⟩ (renderMembers members) =
        some ⟨.done (.obj (read.reverse ++ members)), frames⟩
  | [], nonempty => absurd rfl nonempty
  | [(key, value)], _ => by
      obtain ⟨reader, fed, has⟩ := feed_render (.inMember read key :: frames) value
      rw [renderMembers, append_assoc, cons_append, feed_key, feed_append, fed,
        bind_some, feed, has.step_eq (by decide)]
      simp [step, isSpace, afterValue, feed]
  | (key, value) :: next :: rest, _ => by
      obtain ⟨reader, fed, has⟩ := feed_render (.inMember read key :: frames) value
      have later := feed_renderMembers frames ((key, value) :: read) (next :: rest) (by simp)
      rw [renderMembers, append_assoc, cons_append, feed_key, feed_append, fed,
        bind_some, feed, has.step_eq (by decide)]
      · simpa [step, isSpace, afterValue] using later
      · simp

end

/-- A rendered document reads back as itself. -/
theorem parse_render (document : Json) : parse (render document) = some document := by
  obtain ⟨reader, fed, has⟩ := feed_render [] document
  rw [parse, start, fed, bind_some, finish, has]

/-! ### Torn texts -/

/-- Past a whole document only whitespace, or more digits of it, can be read. -/
theorem HasRead.after_step {next c} (read : HasRead reader document [])
    (stepped : step reader c = some next) :
    ∃ document', HasRead next document' [] := by
  by_cases digit : c.isDigit = false
  · rw [read.step_eq digit] at stepped
    by_cases space : isSpace c
    · obtain rfl : ⟨.done document, []⟩ = next := by simpa [step, space] using stepped
      exact ⟨document, rfl⟩
    · simp [step, space, afterValue] at stepped
  · obtain ⟨mode, frames⟩ := reader
    have isDigit : c.isDigit := by simpa using digit
    cases mode with
    | number negative magnitude =>
      obtain ⟨-, rfl⟩ : signed negative magnitude = document ∧ frames = [] := by
        simpa [HasRead, settle] using read
      by_cases zero : magnitude = 0
      · simp [step, isDigit, zero] at stepped
      · simp only [step, isDigit, zero, if_true, if_false, Option.some.injEq] at stepped
        exact ⟨_, by rw [← stepped]; rfl⟩
    | done _ =>
      obtain ⟨rfl, rfl⟩ : _ = document ∧ frames = [] := by
        simpa [HasRead, settle] using read
      simp [step, isSpace_of_isDigit isDigit, afterValue] at stepped
    | _ => simp [HasRead, settle] at read

theorem HasRead.after_feed {text} : ∀ {reader next document},
    HasRead reader document [] → feed reader text = some next →
      ∃ document', HasRead next document' [] := by
  induction text with
  | nil =>
    intro reader next document read fed
    obtain rfl : reader = next := Option.some.inj fed
    exact ⟨document, read⟩
  | cons c rest ih =>
    intro reader next document read fed
    obtain ⟨middle, stepped, later⟩ := bind_eq_some_iff.mp fed
    obtain ⟨document', read'⟩ := read.after_step stepped
    exact ih read' later

theorem renderMembers_last : ∀ members : List (String × Json),
    ∃ body, renderMembers members = body ++ ['\x7d']
  | [] => ⟨[], rfl⟩
  | [(key, value)] => ⟨renderString key ++ ':' :: render value, by simp [renderMembers]⟩
  | (key, value) :: next :: rest => by
      obtain ⟨body, split⟩ := renderMembers_last (next :: rest)
      refine ⟨renderString key ++ ':' :: render value ++ ',' :: body, ?_⟩
      rw [renderMembers, split]
      · simp
      · simp

theorem finish_eq_some (finished : finish reader = some document) :
    HasRead reader document [] := by
  unfold finish at finished
  split at finished
  · next same =>
      obtain rfl := Option.some.inj finished
      exact same
  · cases finished

/-- No proper beginning of a rendered object is a document. -/
theorem parse_torn_object {members kept lost} (split : render (.obj members) = kept ++ lost)
    (torn : lost ≠ []) : parse kept = none := by
  by_contra parsed
  obtain ⟨document, parsed⟩ := ne_none_iff_exists'.mp parsed
  obtain ⟨reader, fed, finished⟩ := bind_eq_some_iff.mp parsed
  -- What was lost ends with the brace that closes the object.
  obtain ⟨body, ends⟩ : ∃ body, lost = body ++ ['\x7d'] := by
    obtain ⟨body, ends⟩ := renderMembers_last members
    have last : (kept ++ lost).getLast? = some '\x7d' := by
      rw [← split, render, ends, ← cons_append, List.getLast?_concat]
    obtain ⟨c, cs, rfl⟩ := exists_cons_of_ne_nil torn
    rw [List.getLast?_append_cons] at last
    exact ⟨_, (dropLast_append_getLast? _ last).symm⟩
  obtain ⟨whole, fedWhole, -⟩ := feed_render [] (.obj members)
  rw [split, ends, feed_append, ← start, fed, bind_some, feed_append] at fedWhole
  obtain ⟨middle, fedBody, fedBrace⟩ := bind_eq_some_iff.mp fedWhole
  obtain ⟨_, closed⟩ := (finish_eq_some finished).after_feed fedBody
  rw [feed, closed.step_eq (by decide)] at fedBrace
  simp [step, isSpace, afterValue] at fedBrace

/-! ### One document, one line -/

theorem escapeChar_printable (c : Char) : ∀ d ∈ escapeChar c, 32 ≤ d.toNat := by
  have hex : ∀ digit < 16, 32 ≤ (hexDigit digit).toNat := by decide
  have head : (['\\', 'u', '0', '0'].all fun d => 32 ≤ d.toNat) = true := rfl
  have escaped := escaped_escapeChar c
  generalize escapeChar c = text at escaped
  cases escaped with
  | short _ _ printable =>
    exact forall_mem_cons.mpr ⟨by decide, forall_mem_singleton.mpr printable⟩
  | code control =>
    intro d mem
    rcases mem_append.mp (show d ∈ ['\\', 'u', '0', '0'] ++ _ from mem) with first | last
    · exact of_decide_eq_true (all_eq_true.mp head d first)
    · rcases mem_pair.mp last with rfl | rfl
      · exact hex _ (by omega)
      · exact hex _ (by omega)
  | plain _ _ printable => exact forall_mem_singleton.mpr printable

theorem renderString_printable (value : String) : ∀ d ∈ renderString value, 32 ≤ d.toNat := by
  intro d mem
  simp only [renderString, cons_append, mem_cons, mem_append, mem_flatMap,
    not_mem_nil, or_false] at mem
  rcases mem with rfl | ⟨c, -, mem⟩ | rfl
  · decide
  · exact escapeChar_printable c d mem
  · decide

theorem renderInt_printable (value : Int) : ∀ d ∈ renderInt value, 32 ≤ d.toNat := by
  have digits (n : Nat) : ∀ d ∈ Nat.toDigits 10 n, 32 ≤ d.toNat := by
    intro d mem
    have digit := Nat.isDigit_of_mem_toDigits (by decide) (by decide) mem
    simp only [Char.isDigit, Bool.and_eq_true, decide_eq_true_eq] at digit
    exact le_trans (by decide) (UInt32.le_iff_toNat_le.mp digit.1)
  cases value with
  | ofNat n => exact digits n
  | negSucc n =>
    intro d mem
    rcases mem_cons.mp mem with rfl | mem
    · decide
    · exact digits _ d mem

mutual

/-- A rendered document holds no control character: no newline in particular. -/
theorem render_printable : ∀ (document : Json), ∀ d ∈ render document, 32 ≤ d.toNat
  | .null => by simp [render]
  | .bool true => by simp [render]
  | .bool false => by simp [render]
  | .int value => renderInt_printable value
  | .str value => renderString_printable value
  | .arr items => by
      intro d mem
      rcases List.mem_cons.mp mem with rfl | mem
      · decide
      · exact renderItems_printable items d mem
  | .obj members => by
      intro d mem
      rcases List.mem_cons.mp mem with rfl | mem
      · decide
      · exact renderMembers_printable members d mem

theorem renderItems_printable : ∀ (items : List Json), ∀ d ∈ renderItems items, 32 ≤ d.toNat
  | [] => by simp [renderItems]
  | [item] => by
      have := render_printable item
      simp only [renderItems, mem_append, mem_singleton]
      rintro d (mem | rfl)
      exacts [this d mem, by decide]
  | item :: next :: rest => by
      have first := render_printable item
      have later := renderItems_printable (next :: rest)
      rw [renderItems]
      · simp only [mem_append, mem_cons]
        rintro d (mem | rfl | mem)
        exacts [first d mem, by decide, later d mem]
      · simp

theorem renderMembers_printable : ∀ (members : List (String × Json)),
    ∀ d ∈ renderMembers members, 32 ≤ d.toNat
  | [] => by simp [renderMembers]
  | [(key, value)] => by
      have := render_printable value
      simp only [renderMembers, mem_append, mem_cons, not_mem_nil, or_false]
      rintro d ((mem | rfl | mem) | rfl)
      exacts [renderString_printable key d mem, by decide, this d mem, by decide]
  | (key, value) :: next :: rest => by
      have first := render_printable value
      have later := renderMembers_printable (next :: rest)
      rw [renderMembers]
      · simp only [mem_append, mem_cons]
        rintro d ((mem | rfl | mem) | rfl | mem)
        exacts [renderString_printable key d mem, by decide, first d mem, by decide, later d mem]
      · simp

end

end Apex.JsonReader
