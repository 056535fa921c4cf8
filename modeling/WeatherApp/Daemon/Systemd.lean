import WeatherApp.Foundation.UnitFile
import Mathlib.Tactic

/-!
# The unit file of the daemon

`daemon/src/service/linux/systemd.rs` writes the unit file of the installed daemon. The paths of
the `ExecStart` line are quoted for a shell, while the line is read by the rules of unit files.

## Main definitions

* `ServiceLayout`, `InstallerAccepts`
* `shellEscape`, `renderUnit`
* `readExecStart`, `execArguments`

## Main results

* `items_escapeQuotes`: what the strict reader makes of a text quoted for a shell.
-/

namespace WeatherApp

open UnitFile (Reader tokens items escape)

/-- `ServiceLayout`: what of it the unit file holds. -/
structure ServiceLayout where
  /-- A system service, not one of the user. -/
  system : Bool
  /-- The path of the config file. -/
  configPath : String
deriving DecidableEq, Repr

/-- `Path::is_absolute`. -/
def isAbsolute (path : String) : Bool := path.toList.head? = some '/'

/-- `component_entry`: the manifest takes absolute paths only. -/
def componentEntry (path : String) : Except String String :=
  if isAbsolute path then .ok path else .error ("component path must be absolute: " ++ path)

/-- The installer records the binary and the config file in its manifest. -/
def InstallerAccepts (layout : ServiceLayout) (binExe : String) : Prop :=
  (componentEntry binExe).isOk ∧ (componentEntry layout.configPath).isOk

instance (layout : ServiceLayout) (binExe : String) : Decidable (InstallerAccepts layout binExe) :=
  inferInstanceAs (Decidable (_ ∧ _))

/-- `value.replace('\'', "'\\''")`. -/
def escapeQuotes (value : List Char) : List Char :=
  value.flatMap fun c => if c = '\'' then ['\'', '\\', '\'', '\''] else [c]

/-- `shell_escape` -/
def shellEscape (value : String) : String :=
  "'" ++ String.ofList (escapeQuotes value.toList) ++ "'"

/-- `render_unit` -/
def renderUnit (layout : ServiceLayout) (binExe : String) : String :=
  let escapedExe := shellEscape binExe
  let escapedConfig := shellEscape layout.configPath
  let wantedBy := if layout.system then "multi-user.target" else "default.target"
  let userSection := if layout.system then "\nUser=root\nGroup=root" else ""
  "[Unit]\nDescription=Weather Engine Daemon\nAfter=network-online.target\n\n" ++
  "[Service]\nType=simple\nExecStart=" ++ escapedExe ++ " daemon run --config " ++
  escapedConfig ++ "\nRestart=on-failure\nRestartSec=2s" ++ userSection ++
  "\n\n[Install]\nWantedBy=" ++ wantedBy ++ "\n"

/-- The command line of the service as a reader of unit files reads it. -/
def readExecStart (r : Reader) (unit : String) : Option (List String) := do
  let value ← UnitFile.readSetting r "Service".toList "ExecStart".toList unit.toList
  let arguments ← UnitFile.readCommand r value
  return arguments.map String.ofList

/-- The arguments the unit is written for. -/
def execArguments (layout : ServiceLayout) (binExe : String) : List String :=
  [binExe, "daemon", "run", "--config", layout.configPath]

/-- No character of the text means something to a reader of unit files. -/
structure ReadsVerbatim (text : String) : Prop where
  /-- No quotation mark, backslash, percent sign or end of line. -/
  plain : ∀ c ∈ text.toList, c ∉ ['\'', '\\', '%', '\n', '\r']
  /-- No doubled dollar sign and no variable in braces. -/
  noReference : UnitFile.hasReference text.toList = false

/-! ### The quoted text -/

@[simp]
theorem escapeQuotes_nil : escapeQuotes [] = [] := rfl

@[simp]
theorem escapeQuotes_quote (text : List Char) :
    escapeQuotes ('\'' :: text) = '\'' :: '\\' :: '\'' :: '\'' :: escapeQuotes text := rfl

theorem escapeQuotes_cons {c : Char} (h : c ≠ '\'') (text : List Char) :
    escapeQuotes (c :: text) = c :: escapeQuotes text := by
  simp [escapeQuotes, h]

theorem escapeQuotes_append (first second : List Char) :
    escapeQuotes (first ++ second) = escapeQuotes first ++ escapeQuotes second := by
  simp [escapeQuotes]

/-- Without quotation marks the text stays as it is. -/
theorem escapeQuotes_eq_self {text : List Char} (h : '\'' ∉ text) : escapeQuotes text = text := by
  induction text with
  | nil => rfl
  | cons c text ih =>
    obtain ⟨hc, htext⟩ : '\'' ≠ c ∧ '\'' ∉ text := by simpa using h
    rw [escapeQuotes_cons (Ne.symm hc), ih htext]

theorem mem_of_mem_escapeQuotes {text : List Char} {c : Char} (h : c ∈ escapeQuotes text) :
    c ∈ text ∨ c = '\'' ∨ c = '\\' := by
  simp only [escapeQuotes, List.mem_flatMap] at h
  obtain ⟨d, hd, hc⟩ := h
  split at hc
  · right
    simp only [List.mem_cons, List.not_mem_nil] at hc
    tauto
  · left
    obtain rfl : c = d := by simpa using hc
    exact hd

/-- Characters that are no quotation marks come from the text, or from what follows it. -/
theorem escapeQuotes_drop {text next : List Char} {width : ℕ}
    (h : '\'' ∉ (escapeQuotes text ++ next).take width) :
    (width ≤ text.length ∧
        (escapeQuotes text ++ next).drop width = escapeQuotes (text.drop width) ++ next) ∨
      (text.length < width ∧ '\'' ∉ next.take (width - text.length) ∧
        (escapeQuotes text ++ next).drop width = next.drop (width - text.length)) := by
  induction text generalizing width with
  | nil =>
    rcases Nat.eq_zero_or_pos width with rfl | hpos
    · left
      simp
    · right
      simpa using ⟨hpos, h⟩
  | cons c text ih =>
    cases width with
    | zero =>
      left
      simp
    | succ width =>
      have hc : c ≠ '\'' := by
        rintro rfl
        simp at h
      rw [escapeQuotes_cons hc, List.cons_append, List.take_succ_cons] at h
      rw [escapeQuotes_cons hc, List.cons_append, List.drop_succ_cons, List.drop_succ_cons,
        List.length_cons, Nat.succ_sub_succ, Nat.succ_le_succ_iff, Nat.succ_lt_succ_iff]
      apply ih
      exact fun hmem => h (List.mem_cons_of_mem _ hmem)

/-- The strict reader takes a quoted item up to its closing quote. -/
theorem items_closed_strict {item : List Char} {rest : List UnitFile.Token}
    {found : List (List Char)} (h : items .strict (.closed item) rest = some found) :
    ∃ others, found = item.reverse :: others := by
  cases rest with
  | nil =>
    obtain rfl : [item.reverse] = found := by simpa [items] using h
    exact ⟨[], rfl⟩
  | cons token rest =>
    cases token with
    | refused => simp [items] at h
    | literal c => simp [items, Reader.strict] at h
    | raw c =>
      rw [items] at h
      split at h
      · obtain ⟨others, -, rfl⟩ := Option.map_eq_some_iff.1 h
        exact ⟨others, rfl⟩
      · simp [Reader.strict] at h

/-- What follows the escaped text does not close the quote: it starts with the closing quote, and
a reader that passes over this one finds no other, or it has no quotation mark. -/
def ClosesOnce (next : List Char) : Prop :=
  (∃ rest, next = '\'' :: rest ∧
    ∀ item, items .strict (.quoted '\'' item) (tokens .strict 0 rest) = none) ∨ '\'' ∉ next

/-- The item read from a text quoted for a shell is no longer than the text, and as long only if
the text has no quotation mark and no backslash. -/
theorem items_escapeQuotes {text next item : List Char} {found : List (List Char)}
    (hnext : ClosesOnce next)
    (h : items .strict (.quoted '\'' item) (tokens .strict 0 (escapeQuotes text ++ next)) =
      some found) :
    ∃ first others, found = first :: others ∧ first.length ≤ item.length + text.length ∧
      (∀ rest, next = '\'' :: rest → first.length = item.length + text.length →
        '\'' ∉ text ∧ '\\' ∉ text) := by
  induction hlength : text.length using Nat.strong_induction_on generalizing text item with
  | _ n ih =>
    subst hlength
    cases text with
    | nil =>
      cases hnext with
      | inl hclose =>
        obtain ⟨rest, rfl, -⟩ := hclose
        rw [escapeQuotes_nil, List.nil_append, tokens, if_neg (by decide), items, if_pos rfl] at h
        obtain ⟨others, rfl⟩ := items_closed_strict h
        exact ⟨_, others, rfl, by simp, by simp⟩
      | inr hquote =>
        rw [escapeQuotes_nil, List.nil_append, UnitFile.items_quoted_open _ _ _ hquote] at h
        cases h
    | cons c text =>
      by_cases hquote : c = '\''
      · -- the quote is closed before the backslash, where no character may stand
        subst hquote
        simp [tokens, items, escape, UnitFile.simpleEscape, Reader.strict] at h
      by_cases hbackslash : c = '\\'
      · subst hbackslash
        rw [escapeQuotes_cons hquote, List.cons_append, tokens, if_pos rfl] at h
        cases hescape : escape (escapeQuotes text ++ next) with
        | none =>
          rw [hescape] at h
          simp [items, Reader.strict] at h
        | some found' =>
          obtain ⟨d, width⟩ := found'
          rw [hescape] at h
          simp only [items] at h
          rcases UnitFile.escape_eq_some hescape with ⟨⟨rest, hrest⟩, rfl, rfl⟩ | ⟨hpos, hle, hno⟩
          · cases text with
            | nil =>
              -- the closing quote itself is escaped
              rw [escapeQuotes_nil, List.nil_append] at hrest
              subst hrest
              rw [escapeQuotes_nil, List.nil_append, tokens] at h
              rcases hnext with ⟨rest', hrest', hnone⟩ | hno
              · obtain rfl : rest = rest' := (List.cons.inj hrest').2
                rw [hnone] at h
                cases h
              · simp at hno
            | cons c' text =>
              obtain rfl : c' = '\'' := by
                by_contra hc'
                rw [escapeQuotes_cons hc'] at hrest
                exact hc' (List.cons.inj hrest).1
              simp only [escapeQuotes_quote, List.cons_append, tokens, escape,
                UnitFile.simpleEscape, items, if_pos, Char.reduceEq, if_false] at h
              obtain ⟨others, rfl⟩ := items_closed_strict h
              refine ⟨_, others, rfl, by simp, ?_⟩
              rintro rest' rfl heq
              obtain rfl : text = [] := by
                simpa using heq
              simp [tokens, items, Reader.strict, UnitFile.isSpace] at h
          · rcases escapeQuotes_drop hno with ⟨hwidth, hdrop⟩ | ⟨hwidth, hfree, hdrop⟩
            · rw [UnitFile.tokens_eq_drop, hdrop] at h
              obtain ⟨first, others, rfl, hfirst, -⟩ :=
                ih (text.drop width).length (by simp) h rfl
              rw [List.length_cons, List.length_drop] at hfirst
              refine ⟨first, others, rfl, by simp only [List.length_cons]; omega, ?_⟩
              intro _ _ heq
              simp only [List.length_cons] at heq
              omega
            · rcases hnext with ⟨rest, rfl, -⟩ | hopen
              · obtain ⟨k, hk⟩ : ∃ k, width - text.length = k + 1 :=
                  ⟨width - text.length - 1, by omega⟩
                simp [hk] at hfree
              · rw [UnitFile.tokens_eq_drop, hdrop,
                  UnitFile.items_quoted_open _ _ _ (fun hmem => hopen (List.mem_of_mem_drop hmem))]
                  at h
                cases h
      · rw [escapeQuotes_cons hquote, List.cons_append, tokens, if_neg hbackslash, items,
          if_neg hquote] at h
        obtain ⟨first, others, rfl, hfirst, hclean⟩ := ih text.length (by simp) h rfl
        refine ⟨first, others, rfl, by simp only [List.length_cons] at hfirst ⊢; omega, ?_⟩
        intro rest hrest heq
        have hrec := hclean rest hrest (by simp only [List.length_cons] at heq ⊢; omega)
        simpa [Ne.symm hquote, Ne.symm hbackslash] using hrec

end WeatherApp
