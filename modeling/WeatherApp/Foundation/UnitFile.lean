import Mathlib.Data.List.DropRight
import Mathlib.Data.String.Basic
import Mathlib.Tactic

/-!
# Reading a command line from a unit file

The documented rules by which a service manager reads a setting that holds a command line: the
lines of the file with their continuations, the assignment in its section, quotes and C-style
escapes, percent specifiers, and the expansion of variables. A `Reader` collects what the
documentation leaves to the host or does not say; a text that reads back as itself does so under
every reader.

A lone semicolon between commands and the marks that may stand before the command are left out:
no item that starts with a slash is one of them.

## Main definitions

* `UnitFile.Reader`, `UnitFile.Reader.strict`
* `UnitFile.logicalLines`, `UnitFile.tokens`, `UnitFile.items`
* `UnitFile.expandSpecifiers`, `UnitFile.expandVariables`
* `UnitFile.readSetting`, `UnitFile.readCommand`

## Main results

* `UnitFile.items_quoted_plain`, `UnitFile.items_quoted_open`: a quoted text without quotation
  marks and backslashes is read as it stands, and one that is never closed is refused.
* `UnitFile.expandVariables_eq_self`, `UnitFile.expandSpecifiers_eq_self`
* `UnitFile.length_of_expandSpecifiers`, `UnitFile.length_expandVariables_lt`: for the strict
  reader every expansion shortens the text.
-/

namespace WeatherApp.UnitFile

/-- What the documentation leaves open, and what the reader finds on its host. -/
structure Reader where
  /-- What a percent sign and the character after it stand for (no character at the end of an
  item); `none` when it is not known or cannot be resolved. -/
  specifier : Option Char → Option (List Char)
  /-- Two percent signs stand for one. -/
  specifier_percent : specifier (some '%') = some ['%']
  /-- The value of a variable, empty when it is not set. -/
  environment : List Char → List Char
  /-- The value of a variable split into words. -/
  words : List Char → List (List Char)
  /-- Whether a carriage return ends a line as a newline does. -/
  returnEndsLine : Bool
  /-- Whether an escape outside the table is kept as it stands or refused. -/
  keepsUnknownEscapes : Bool
  /-- Whether a quote may stand inside an item, where the rules do not allow one. -/
  joinsQuotes : Bool
  /-- Whether variables are expanded in the command itself, which may not be a variable. -/
  expandsCommand : Bool

/-- The reader that refuses what is not allowed, on a host without specifiers and variables. -/
def Reader.strict : Reader where
  specifier := fun c => if c = some '%' then some ['%'] else none
  specifier_percent := rfl
  environment := fun _ => []
  words := fun _ => [[]]
  returnEndsLine := true
  keepsUnknownEscapes := false
  joinsQuotes := false
  expandsCommand := true

/-! ### Lines -/

/-- The character ends a line. -/
def Reader.endsLine (r : Reader) (c : Char) : Bool := c == '\n' || (c == '\r' && r.returnEndsLine)

/-- The lines of the file as they stand. -/
def physicalLines (r : Reader) (text : List Char) : List (List Char) := text.splitOnP r.endsLine

/-- A comment starts with a hash sign or a semicolon. -/
def isComment : List Char → Bool
  | '#' :: _ => true
  | ';' :: _ => true
  | _ => false

/-- A line that ends in a backslash goes on: the backslash is read as a space. -/
def continued (line : List Char) : Option (List Char) :=
  if line.getLast? = some '\\' then some (line.dropLast ++ [' ']) else none

/-- Join each line that goes on with the next one that is no comment, and drop the comments;
`pending` is the joined part of a line that goes on. -/
def logicalLines : Option (List Char) → List (List Char) → List (List Char)
  | none, [] => []
  | some pending, [] => [pending]
  | pending, line :: lines =>
    if isComment line then logicalLines pending lines
    else
      match continued line with
      | some body => logicalLines (some (pending.getD [] ++ body)) lines
      | none => (pending.getD [] ++ line) :: logicalLines none lines

/-- White space between words. -/
def isSpace (c : Char) : Bool := c == ' ' || c == '\t' || c == '\n' || c == '\r'

/-- The key and the value of an assignment. -/
def assignment (line : List Char) : Option (List Char × List Char) :=
  match line.dropWhile (· != '=') with
  | [] => none
  | _ :: value => some ((line.takeWhile (· != '=')).rdropWhile isSpace, value.dropWhile isSpace)

/-- The name of the section a line opens. -/
def sectionName (line : List Char) : Option (List Char) :=
  if line.head? = some '[' ∧ line.getLast? = some ']' then some line.tail.dropLast else none

/-- The value of the first assignment to the key in the section. -/
def lookup (name key : List Char) : List Char → List (List Char) → Option (List Char)
  | _, [] => none
  | current, line :: lines =>
    match sectionName line with
    | some opened => lookup name key opened lines
    | none =>
      match assignment line with
      | some (k, value) =>
        if current = name ∧ k = key then some value else lookup name key current lines
      | none => lookup name key current lines

/-- The value of a setting of the file. -/
def readSetting (r : Reader) (name key text : List Char) : Option (List Char) :=
  lookup name key [] (logicalLines none (physicalLines r text))

/-! ### Items -/

/-- The escapes of one character. -/
def simpleEscape : Char → Option Char
  | 'a' => some '\x07'
  | 'b' => some '\x08'
  | 'f' => some '\x0c'
  | 'n' => some '\n'
  | 'r' => some '\r'
  | 't' => some '\t'
  | 'v' => some '\x0b'
  | '\\' => some '\\'
  | '"' => some '"'
  | '\'' => some '\''
  | 's' => some ' '
  | _ => none

/-- The value of a digit. -/
def digitValue (base : ℕ) (c : Char) : Option ℕ :=
  let value :=
    if '0' ≤ c ∧ c ≤ '9' then some (c.toNat - 48)
    else if 'a' ≤ c ∧ c ≤ 'f' then some (c.toNat - 87)
    else if 'A' ≤ c ∧ c ≤ 'F' then some (c.toNat - 55)
    else none
  value.filter (· < base)

/-- The character whose number stands in the next `width` digits. -/
def numbered (base width : ℕ) (text : List Char) : Option Char :=
  match (text.take width).mapM (digitValue base) with
  | some digits =>
    let n := digits.foldl (fun value digit => value * base + digit) 0
    if digits.length = width ∧ n.isValidChar then some (Char.ofNat n) else none
  | none => none

/-- The escape the text after a backslash starts with: the character it stands for, and how many
characters it takes. -/
def escape : List Char → Option (Char × ℕ)
  | [] => none
  | c :: rest =>
    match simpleEscape c with
    | some d => some (d, 1)
    | none =>
      if c = 'x' then (numbered 16 2 rest).map fun d => (d, 3)
      else if c = 'u' then (numbered 16 4 rest).map fun d => (d, 5)
      else if c = 'U' then (numbered 16 8 rest).map fun d => (d, 9)
      else (numbered 8 3 (c :: rest)).map fun d => (d, 3)

/-- A character of a value: as it stands, from an escape, or refused. -/
inductive Token where
  /-- The character as it stands. -/
  | raw (c : Char)
  /-- The character an escape stands for. -/
  | literal (c : Char)
  /-- An escape that is not allowed. -/
  | refused
deriving DecidableEq, Repr

/-- The tokens of a value; the first `skip` characters belong to an escape already read. -/
def tokens (r : Reader) : ℕ → List Char → List Token
  | _, [] => []
  | skip + 1, _ :: rest => tokens r skip rest
  | 0, c :: rest =>
    if c = '\\' then
      match escape rest with
      | some (d, width) => .literal d :: tokens r width rest
      | none => (if r.keepsUnknownEscapes then .literal '\\' else .refused) :: tokens r 0 rest
    else .raw c :: tokens r 0 rest

/-- Where the reader of items stands; the characters of the item so far are in reverse. -/
inductive Place where
  /-- Before an item. -/
  | between
  /-- In an item, outside quotes. -/
  | bare (item : List Char)
  /-- In an item, inside the quote. -/
  | quoted (quote : Char) (item : List Char)
  /-- Right after a closing quote. -/
  | closed (item : List Char)
deriving DecidableEq, Repr

/-- A quotation mark. -/
def isQuote (c : Char) : Bool := c == '"' || c == '\''

/-- The items of a value, without their quotes. -/
def items (r : Reader) : Place → List Token → Option (List (List Char))
  | .between, [] => some []
  | .bare item, [] => some [item.reverse]
  | .closed item, [] => some [item.reverse]
  | .quoted _ _, [] => none
  | _, .refused :: _ => none
  | .between, .literal c :: rest => items r (.bare [c]) rest
  | .bare item, .literal c :: rest => items r (.bare (c :: item)) rest
  | .quoted q item, .literal c :: rest => items r (.quoted q (c :: item)) rest
  | .closed item, .literal c :: rest =>
    if r.joinsQuotes then items r (.bare (c :: item)) rest else none
  | .between, .raw c :: rest =>
    if isSpace c then items r .between rest
    else if isQuote c then items r (.quoted c []) rest
    else items r (.bare [c]) rest
  | .bare item, .raw c :: rest =>
    if isSpace c then (items r .between rest).map (item.reverse :: ·)
    else if isQuote c then if r.joinsQuotes then items r (.quoted c item) rest else none
    else items r (.bare (c :: item)) rest
  | .quoted q item, .raw c :: rest =>
    if c = q then items r (.closed item) rest else items r (.quoted q (c :: item)) rest
  | .closed item, .raw c :: rest =>
    if isSpace c then (items r .between rest).map (item.reverse :: ·)
    else if r.joinsQuotes then
      if isQuote c then items r (.quoted c item) rest else items r (.bare (c :: item)) rest
    else none

/-! ### Expansion -/

/-- Replace the percent specifiers of an item. -/
def expandSpecifiers (r : Reader) : List Char → Option (List Char)
  | [] => some []
  | '%' :: c :: rest => do return (← r.specifier (some c)) ++ (← expandSpecifiers r rest)
  | ['%'] => r.specifier none
  | c :: rest => (expandSpecifiers r rest).map (c :: ·)

/-- What the text after a dollar sign refers to, and how many characters of it belong to the
reference: a second dollar sign, or a variable in braces. -/
def reference (r : Reader) : List Char → Option (List Char × ℕ)
  | '$' :: _ => some (['$'], 1)
  | '{' :: rest =>
    if '}' ∈ rest then
      let name := rest.takeWhile (· != '}')
      some (r.environment name, name.length + 2)
    else none
  | _ => none

/-- Replace the variables of an item; the first `skip` characters belong to a reference already
replaced. -/
def expandVariables (r : Reader) : ℕ → List Char → List Char
  | _, [] => []
  | skip + 1, _ :: rest => expandVariables r skip rest
  | 0, c :: rest =>
    if c = '$' then
      match reference r rest with
      | some (value, width) => value ++ expandVariables r width rest
      | none => c :: expandVariables r 0 rest
    else c :: expandVariables r 0 rest

/-- An argument after its expansion: a variable that is a word of its own is split into words. -/
def expandArgument (r : Reader) (item : List Char) : List (List Char) :=
  match item with
  | '$' :: c :: name =>
    if c = '$' ∨ c = '{' then [expandVariables r 0 item] else r.words (c :: name)
  | _ => [expandVariables r 0 item]

/-- A control character. -/
def isControl (c : Char) : Bool := decide (c.toNat < 0x20) || c.toNat == 0x7f

/-- The arguments of a command line, the command first; it holds no control character. -/
def readCommand (r : Reader) (value : List Char) : Option (List (List Char)) := do
  let found ← items r .between (tokens r 0 value)
  let found ← found.mapM (expandSpecifiers r)
  match found with
  | [] => none
  | command :: arguments =>
    let command := if r.expandsCommand then expandVariables r 0 command else command
    if command.any isControl then none
    else some (command :: arguments.flatMap (expandArgument r))

/-! ### One line after the other -/

@[simp]
theorem Reader.endsLine_newline (r : Reader) : r.endsLine '\n' = true := rfl

/-- A line without an end of line, by evaluation. -/
theorem not_endsLine_of_all {r : Reader} {line : List Char}
    (h : (line.all fun c => !r.endsLine c) = true) : ∀ c ∈ line, ¬r.endsLine c := by
  simpa using h

/-- A list has no separator, or splits at the first one. -/
theorem exists_first_of_any {α : Type} (p : α → Bool) (xs : List α) :
    (∀ x ∈ xs, ¬p x) ∨ ∃ before sep after,
      xs = before ++ sep :: after ∧ (∀ x ∈ before, ¬p x) ∧ p sep := by
  induction xs with
  | nil =>
    left
    simp
  | cons x xs ih =>
    by_cases hx : p x
    · right
      exact ⟨[], x, xs, rfl, by simp, hx⟩
    · rcases ih with hall | ⟨before, sep, after, rfl, hbefore, hsep⟩
      · left
        simpa [hx] using hall
      · right
        exact ⟨x :: before, sep, after, rfl, by simpa [hx] using hbefore, hsep⟩

/-- The first line goes up to the first end of a line. -/
theorem physicalLines_cons {r : Reader} {line : List Char} {sep : Char}
    (hline : ∀ c ∈ line, ¬r.endsLine c) (hsep : r.endsLine sep) (rest : List Char) :
    physicalLines r (line ++ sep :: rest) = line :: physicalLines r rest :=
  List.splitOnP_append_cons_of_forall_mem (by simpa using hline) sep hsep rest

/-- A comment is dropped. -/
theorem logicalLines_comment {line : List Char} (h : isComment line = true)
    (pending : Option (List Char)) (lines : List (List Char)) :
    logicalLines pending (line :: lines) = logicalLines pending lines := by
  cases pending <;> rw [logicalLines, if_pos h]

/-- A line that goes on is joined with what follows. -/
theorem logicalLines_continued {line body : List Char} (hcomment : isComment line = false)
    (hbody : continued line = some body) (pending : Option (List Char)) (lines : List (List Char)) :
    logicalLines pending (line :: lines) =
      logicalLines (some (pending.getD [] ++ body)) lines := by
  cases pending <;> simp [logicalLines, hcomment, hbody]

/-- A line that does not go on ends the joined line. -/
theorem logicalLines_last {line : List Char} (hcomment : isComment line = false)
    (hlast : continued line = none) (pending : Option (List Char)) (lines : List (List Char)) :
    logicalLines pending (line :: lines) =
      (pending.getD [] ++ line) :: logicalLines none lines := by
  cases pending <;> simp [logicalLines, hcomment, hlast]

/-! ### What reads back as itself -/

/-- The text after a dollar sign makes it a reference. -/
def refers : List Char → Bool
  | '$' :: _ => true
  | '{' :: rest => decide ('}' ∈ rest)
  | _ => false

/-- A dollar sign of the text starts a reference. -/
def hasReference : List Char → Bool
  | [] => false
  | c :: rest => (c == '$' && refers rest) || hasReference rest

/-- The reader replaces nothing where there is no reference. -/
theorem reference_eq_none {r : Reader} {text : List Char} (h : refers text = false) :
    reference r text = none := by
  unfold refers at h
  unfold reference
  split at h <;> simp_all

/-- The reference found is as long as the text it covers, at least. -/
theorem length_of_reference_strict {text value : List Char} {width : ℕ}
    (h : reference .strict text = some (value, width)) :
    value.length ≤ width ∧ width ≤ text.length := by
  unfold reference at h
  split at h
  · obtain ⟨rfl, rfl⟩ : ['$'] = value ∧ 1 = width := by simpa using h
    simp
  · rename_i rest
    split at h
    · rename_i hbrace
      obtain ⟨rfl, rfl⟩ : [] = value ∧ (rest.takeWhile (· != '}')).length + 2 = width := by
        simpa [Reader.strict] using h
      -- the name stops before the closing brace, which the text holds
      have hlt : (rest.takeWhile (· != '}')).length < rest.length := by
        by_contra hge
        have hall : rest.takeWhile (· != '}') = rest :=
          (List.takeWhile_prefix _).eq_of_length (by
            have := (List.takeWhile_prefix (· != '}') (l := rest)).length_le
            omega)
        have := List.takeWhile_eq_self_iff.1 hall _ hbrace
        simp at this
      simp only [List.length_nil, List.length_cons]
      omega
    · cases h
  · cases h

/-- Without a reference the expansion changes nothing. -/
theorem expandVariables_eq_self (r : Reader) {text : List Char} (h : hasReference text = false) :
    expandVariables r 0 text = text := by
  induction text with
  | nil => rfl
  | cons c rest ih =>
    simp only [hasReference, Bool.or_eq_false_iff, Bool.and_eq_false_iff, beq_eq_false_iff_ne] at h
    rw [expandVariables, ih h.2]
    split
    · rename_i hdollar
      rw [reference_eq_none (h.1.resolve_left fun hne => hne hdollar)]
    · rfl

/-- Without variables the expansion does not lengthen the text. -/
theorem length_expandVariables_strict (skip : ℕ) (text : List Char) :
    (expandVariables .strict skip text).length ≤ text.length - skip := by
  induction text generalizing skip with
  | nil => simp [expandVariables]
  | cons c rest ih =>
    cases skip with
    | succ skip =>
      have := ih skip
      simp only [expandVariables, List.length_cons]
      omega
    | zero =>
      rw [expandVariables]
      split
      · split
        · rename_i value width href
          have := length_of_reference_strict href
          have := ih width
          simp only [List.length_append, List.length_cons]
          omega
        · have := ih 0
          simp only [List.length_cons]
          omega
      · have := ih 0
        simp only [List.length_cons]
        omega

/-- Without variables a reference shortens the text. -/
theorem length_expandVariables_lt {text : List Char} (h : hasReference text = true) :
    (expandVariables .strict 0 text).length < text.length := by
  induction text with
  | nil => simp [hasReference] at h
  | cons c rest ih =>
    have hle := length_expandVariables_strict 0 rest
    by_cases hhead : (c == '$' && refers rest) = true
    · obtain ⟨hc, href⟩ := Bool.and_eq_true_iff.1 hhead
      obtain ⟨⟨value, width⟩, hfound⟩ : ∃ found, reference .strict rest = some found := by
        unfold refers at href
        unfold reference
        split at href <;> simp_all
      rw [expandVariables, if_pos (by simpa using hc), hfound]
      have := length_of_reference_strict hfound
      have := length_expandVariables_strict width rest
      simp only [List.length_append, List.length_cons]
      omega
    · have hrest : hasReference rest = true := by
        rw [hasReference, Bool.eq_false_iff.2 hhead, Bool.false_or] at h
        exact h
      have hnone : c = '$' → reference .strict rest = none := by
        intro hc
        apply reference_eq_none
        simpa [hc] using hhead
      have := ih hrest
      rw [expandVariables]
      split
      · rename_i hc
        rw [hnone hc]
        simpa using this
      · simpa using this

/-- A text as long as before its expansion has no reference. -/
theorem hasReference_of_length {text : List Char}
    (h : (expandVariables .strict 0 text).length = text.length) : hasReference text = false := by
  by_contra hyes
  have := length_expandVariables_lt (by simpa using hyes)
  omega

/-- The strict reader makes one argument of an item, shorter if the item held a reference. -/
theorem expandArgument_strict (item : List Char) :
    ∃ argument, expandArgument .strict item = [argument] ∧ argument.length ≤ item.length ∧
      (argument.length = item.length → argument = item ∧ hasReference item = false) := by
  have hcases : expandArgument .strict item = [expandVariables .strict 0 item] ∨
      (expandArgument .strict item = [[]] ∧ 0 < item.length) := by
    unfold expandArgument
    split
    · split_ifs
      · left
        rfl
      · -- a variable that is a word of its own has an empty value here
        right
        exact ⟨rfl, by simp⟩
    · left
      rfl
  rcases hcases with h | ⟨h, hlong⟩
  · refine ⟨_, h, length_expandVariables_strict 0 item, fun hlength => ?_⟩
    have hno := hasReference_of_length hlength
    exact ⟨expandVariables_eq_self _ hno, hno⟩
  · refine ⟨[], h, by simp, fun hlength => ?_⟩
    simp only [List.length_nil] at hlength
    omega

/-- Without a percent sign there is no specifier to replace. -/
theorem expandSpecifiers_eq_self (r : Reader) {text : List Char} (h : '%' ∉ text) :
    expandSpecifiers r text = some text := by
  induction text with
  | nil => rfl
  | cons c rest ih =>
    obtain ⟨hc, hrest⟩ : '%' ≠ c ∧ '%' ∉ rest := by simpa using h
    rw [expandSpecifiers.eq_4 r c rest (by grind) (by grind), ih hrest]
    rfl

/-- The strict reader shortens a text with a percent sign, or refuses it. -/
theorem length_of_expandSpecifiers {text value : List Char}
    (h : expandSpecifiers .strict text = some value) :
    ('%' ∉ text ∧ value = text) ∨ value.length < text.length := by
  induction text using expandSpecifiers.induct generalizing value with
  | case1 => simp_all [expandSpecifiers]
  | case2 c rest ih =>
    simp only [expandSpecifiers, Option.pure_def, Option.bind_eq_bind, Option.bind_eq_some_iff,
      Option.some.injEq] at h
    obtain ⟨first, hfirst, tail, htail, rfl⟩ := h
    -- only the doubled percent sign is known
    obtain rfl : ['%'] = first := by
      simp only [Reader.strict] at hfirst
      split at hfirst <;> simp_all
    have hle : tail.length ≤ rest.length := by
      rcases ih htail with ⟨-, rfl⟩ | hlt <;> omega
    right
    simp only [List.length_append, List.length_cons, List.length_nil]
    omega
  | case3 => simp [expandSpecifiers, Reader.strict] at h
  | case4 c rest hpair hlast ih =>
    rw [expandSpecifiers.eq_4 _ c rest hpair hlast, Option.map_eq_some_iff] at h
    obtain ⟨tail, htail, rfl⟩ := h
    have hc : c ≠ '%' := by
      rintro rfl
      cases rest with
      | nil => exact hlast rfl rfl
      | cons d rest => exact hpair d rest rfl rfl
    rcases ih htail with ⟨hno, rfl⟩ | hlt
    · left
      exact ⟨by simpa using ⟨fun h => hc h.symm, hno⟩, rfl⟩
    · right
      simpa using hlt

/-- An argument that does not start with a dollar sign and holds no reference stays as it is. -/
theorem expandArgument_eq_self (r : Reader) {item : List Char} (hstart : item.head? ≠ some '$')
    (h : hasReference item = false) : expandArgument r item = [item] := by
  unfold expandArgument
  split
  · simp at hstart
  · rw [expandVariables_eq_self r h]

/-- Items without a mark of their own are the arguments. -/
theorem readCommand_of_items {r : Reader} {value command : List Char}
    {arguments : List (List Char)}
    (hitems : items r .between (tokens r 0 value) = some (command :: arguments))
    (hpercent : ∀ item ∈ command :: arguments, '%' ∉ item)
    (hdollar : ∀ item ∈ command :: arguments, hasReference item = false)
    (hstart : ∀ item ∈ arguments, item.head? ≠ some '$')
    (hcontrol : ∀ c ∈ command, ¬isControl c) :
    readCommand r value = some (command :: arguments) := by
  have hspecifiers (found : List (List Char)) (h : ∀ item ∈ found, '%' ∉ item) :
      found.mapM (expandSpecifiers r) = some found := by
    induction found with
    | nil => rfl
    | cons item found ih =>
      rw [List.mapM_cons, expandSpecifiers_eq_self r (h item (by simp)),
        ih fun other hother => h other (by simp [hother])]
      rfl
  have harguments (found : List (List Char))
      (h : ∀ item ∈ found, item.head? ≠ some '$' ∧ hasReference item = false) :
      found.flatMap (expandArgument r) = found := by
    induction found with
    | nil => rfl
    | cons item found ih =>
      rw [List.flatMap_cons, expandArgument_eq_self r (h item (by simp)).1 (h item (by simp)).2,
        ih fun other hother => h other (by simp [hother])]
      rfl
  have hcommand : expandVariables r 0 command = command :=
    expandVariables_eq_self r (hdollar command (by simp))
  have hclean : command.any isControl = false := by simpa using hcontrol
  simp only [readCommand, hitems, hspecifiers _ hpercent, Option.bind_eq_bind, Option.bind_some,
    hcommand, ite_self, hclean, Bool.false_eq_true, if_false]
  rw [harguments arguments fun item h => ⟨hstart item h, hdollar item (List.mem_cons_of_mem _ h)⟩]

/-- What the strict reader of a command line went through. -/
theorem readCommand_strict {value : List Char} {arguments : List (List Char)}
    (h : readCommand .strict value = some arguments) :
    ∃ first others command expanded,
      items .strict .between (tokens .strict 0 value) = some (first :: others) ∧
      expandSpecifiers .strict first = some command ∧
      others.mapM (expandSpecifiers .strict) = some expanded ∧
      arguments = expandVariables .strict 0 command ::
        expanded.flatMap (expandArgument .strict) ∧
      ∀ c ∈ expandVariables .strict 0 command, ¬isControl c := by
  simp only [readCommand, Option.bind_eq_bind, Option.bind_eq_some_iff] at h
  obtain ⟨found, hfound, found', hexpanded, h⟩ := h
  cases found with
  | nil =>
    obtain rfl : [] = found' := by simpa using hexpanded
    cases h
  | cons first others =>
    simp only [List.mapM_cons, Option.pure_def, Option.bind_eq_bind, Option.bind_eq_some_iff,
      Option.some.injEq] at hexpanded
    obtain ⟨command, hcommand, expanded, hothers, rfl⟩ := hexpanded
    simp only [Reader.strict, if_true] at h
    split_ifs at h with hcontrol
    refine ⟨first, others, command, expanded, hfound, hcommand, hothers, ?_, ?_⟩
    · exact (Option.some.inj h).symm
    · simpa [Reader.strict] using hcontrol

/-! ### Quoted text -/

/-- A function that may fail succeeds on a list when it does on each element. -/
theorem of_mapM_eq_some {α β : Type} {f : α → Option β} {xs : List α} {ys : List β}
    (h : xs.mapM f = some ys) : ys.length = xs.length ∧ ∀ x ∈ xs, (f x).isSome := by
  induction xs generalizing ys with
  | nil =>
    obtain rfl : [] = ys := by simpa using h
    simp
  | cons x xs ih =>
    simp only [List.mapM_cons, Option.pure_def, Option.bind_eq_bind, Option.bind_eq_some_iff,
      Option.some.injEq] at h
    obtain ⟨y, hy, tail, htail, rfl⟩ := h
    obtain ⟨hlength, hall⟩ := ih htail
    simpa [hlength, hy] using hall

/-- The digits of a numbered escape are all there, and none is a quotation mark. -/
theorem numbered_eq_some {base width : ℕ} {text : List Char} {d : Char}
    (h : numbered base width text = some d) : width ≤ text.length ∧ '\'' ∉ text.take width := by
  simp only [numbered] at h
  split at h
  · rename_i digits hdigits
    obtain ⟨hlength, hall⟩ := of_mapM_eq_some hdigits
    split at h
    · rename_i hwidth
      constructor
      · rw [List.length_take] at hlength
        omega
      · intro hquote
        have := hall _ hquote
        simp [digitValue] at this
    · cases h
  · cases h

/-- An escape is a quotation mark, or a text without one. -/
theorem escape_eq_some {text : List Char} {d : Char} {width : ℕ}
    (h : escape text = some (d, width)) :
    ((∃ rest, text = '\'' :: rest) ∧ d = '\'' ∧ width = 1) ∨
      (0 < width ∧ width ≤ text.length ∧ '\'' ∉ text.take width) := by
  cases text with
  | nil => cases h
  | cons c rest =>
    simp only [escape] at h
    split at h
    · rename_i e he
      obtain ⟨rfl, rfl⟩ : e = d ∧ 1 = width := by simpa using h
      by_cases hc : c = '\''
      · left
        subst hc
        exact ⟨⟨rest, rfl⟩, by simpa [simpleEscape] using he.symm, rfl⟩
      · right
        simpa using Ne.symm hc
    · right
      split_ifs at h with hx hu hU
      -- the letter before the digits is no quotation mark either
      all_goals
        obtain ⟨e, he, hed⟩ := Option.map_eq_some_iff.1 h
        obtain ⟨rfl, rfl⟩ := Prod.mk.inj hed
        obtain ⟨hlength, hquote⟩ := numbered_eq_some he
      · subst hx
        simpa using ⟨hlength, hquote⟩
      · subst hu
        simpa using ⟨hlength, hquote⟩
      · subst hU
        simpa using ⟨hlength, hquote⟩
      · exact ⟨by omega, hlength, hquote⟩

/-- The characters of an escape already read are passed over. -/
theorem tokens_eq_drop (r : Reader) (skip : ℕ) (text : List Char) :
    tokens r skip text = tokens r 0 (text.drop skip) := by
  induction text generalizing skip with
  | nil => cases skip <;> simp [tokens]
  | cons c rest ih =>
    cases skip with
    | zero => rfl
    | succ skip => rw [tokens, ih, List.drop_succ_cons]

/-- A quoted text without quotation marks and backslashes is read as it stands. -/
theorem items_quoted_plain (r : Reader) {text : List Char} (item rest : List Char)
    (hquote : '\'' ∉ text) (hbackslash : '\\' ∉ text) :
    items r (.quoted '\'' item) (tokens r 0 (text ++ '\'' :: rest)) =
      items r (.closed (text.reverse ++ item)) (tokens r 0 rest) := by
  induction text generalizing item with
  | nil => simp [tokens, items]
  | cons c text ih =>
    obtain ⟨hq, hquote⟩ : '\'' ≠ c ∧ '\'' ∉ text := by simpa using hquote
    obtain ⟨hb, hbackslash⟩ : '\\' ≠ c ∧ '\\' ∉ text := by simpa using hbackslash
    rw [List.cons_append, tokens, if_neg (Ne.symm hb), items, if_neg (Ne.symm hq),
      ih (c :: item) hquote hbackslash, List.reverse_cons, List.append_assoc, List.singleton_append]

/-- A quote that is never closed is refused. -/
theorem items_quoted_open (r : Reader) {text : List Char} (item : List Char) (skip : ℕ)
    (hquote : '\'' ∉ text) : items r (.quoted '\'' item) (tokens r skip text) = none := by
  induction text generalizing item skip with
  | nil => cases skip <;> rfl
  | cons c text ih =>
    obtain ⟨hq, hquote⟩ : '\'' ≠ c ∧ '\'' ∉ text := by simpa using hquote
    cases skip with
    | succ skip => exact ih item skip hquote
    | zero =>
      rw [tokens]
      split
      · split
        · exact ih _ _ hquote
        · split
          · exact ih _ _ hquote
          · rfl
      · rw [items, if_neg (Ne.symm hq)]
        exact ih _ _ hquote
end WeatherApp.UnitFile
