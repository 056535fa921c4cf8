import WeatherApp.Daemon.Systemd
import Mathlib.Tactic

/-!
# Which paths the unit file keeps

The paths of the `ExecStart` line read back as they were exactly if nothing in them means anything
to a reader of unit files. In one direction every step of the reader leaves such a path alone. In
the other the strict reader shortens the text at every step that does something, so that a path as
long as it was is the path itself.

## Main results

* `logicalLines_escapeQuotes`: what is left of the line when a path holds an end of line.
* `readExecStart_of_verbatim`, `verbatim_of_readExecStart`
* `unit_reads_back_iff`: which paths read back as they were.
-/

namespace WeatherApp

open UnitFile (Reader tokens items physicalLines logicalLines isComment continued)

/-! ### The line -/

/-- A line with the escaped text at its end goes on only if the text ends in a backslash. -/
theorem continued_escapeQuotes {start : List Char} (hstart : start.getLast? ≠ some '\\')
    (text : List Char) :
    continued (start ++ escapeQuotes text) = none ∨
      ∃ before, text = before ++ ['\\'] ∧
        continued (start ++ escapeQuotes text) = some (start ++ escapeQuotes (before ++ [' '])) := by
  rcases List.eq_nil_or_concat text with rfl | ⟨before, c, rfl⟩
  · left
    simp [continued, hstart]
  · by_cases hc : c = '\\'
    · right
      subst hc
      refine ⟨before, by simp, ?_⟩
      simp [continued, escapeQuotes]
    · left
      by_cases hquote : c = '\''
      · simp [continued, escapeQuotes, hquote]
      · simp [continued, escapeQuotes, hquote, hc]

/-- No character of the escaped text ends a line unless one of the text does. -/
theorem not_endsLine_escapeQuotes {r : Reader} {text : List Char} (h : ∀ c ∈ text, ¬r.endsLine c) :
    ∀ c ∈ escapeQuotes text, ¬r.endsLine c := by
  intro c hc
  rcases mem_of_mem_escapeQuotes hc with hc | rfl | rfl
  · exact h c hc
  · simp [Reader.endsLine]
  · simp [Reader.endsLine]

section Joined

variable {r : Reader} {next : List Char} {others : List (List Char)} {tail : List Char}

/-- The line that ends with the escaped text and the closing quote, with all the lines it goes on
to: it ends with an escaped text that is shorter if the text holds an end of line, and with at most
the closing quote after it. -/
theorem logicalLines_escapeQuotes (htail : physicalLines r tail = next :: others)
    (hnext : isComment next = false ∧ continued next = none ∧ '\'' ∉ next)
    {text start : List Char} {pending : Option (List Char)}
    (hstart : ∀ c ∈ start, ¬r.endsLine c) (hend : start.getLast? ≠ some '\\')
    (hcomment : start = [] ∧ pending.isSome ∨
      ∀ line, isComment (start ++ line) = false) :
    ∃ joined close rest,
      logicalLines pending (physicalLines r (start ++ escapeQuotes text ++ '\'' :: '\n' :: tail)) =
        (pending.getD [] ++ start ++ escapeQuotes joined ++ close) :: rest ∧
      ((joined = text ∧ close = ['\''] ∧ ∀ c ∈ text, ¬r.endsLine c) ∨
        (joined.length < text.length ∧ (close = ['\''] ∨ '\'' ∉ close) ∧
          (start = [] ∨ ∃ c ∈ text, r.endsLine c))) := by
  induction hlength : text.length using Nat.strong_induction_on generalizing text start pending with
  | _ n ih =>
    subst hlength
    rcases UnitFile.exists_first_of_any r.endsLine text with
      hall | ⟨before, sep, after, rfl, hbefore, hsep⟩
    · -- the line goes up to the closing quote
      have hline : physicalLines r (start ++ escapeQuotes text ++ '\'' :: '\n' :: tail) =
          (start ++ escapeQuotes text ++ ['\'']) :: next :: others := by
        have hno : ∀ c ∈ start ++ escapeQuotes text ++ ['\''], ¬r.endsLine c := by
          intro c hc
          simp only [List.mem_append, List.mem_singleton] at hc
          rcases hc with (hc | hc) | rfl
          · exact hstart c hc
          · exact not_endsLine_escapeQuotes hall c hc
          · simp [Reader.endsLine]
        rw [← htail, ← UnitFile.physicalLines_cons hno r.endsLine_newline]
        simp
      rw [hline]
      by_cases hskip : isComment (start ++ escapeQuotes text ++ ['\'']) = true
      · -- the line is dropped with the closing quote, and the next one is joined
        rcases hcomment with ⟨rfl, hpending⟩ | hno
        · obtain ⟨pending, rfl⟩ := Option.isSome_iff_exists.1 hpending
          have hlong : 0 < text.length := by
            rw [List.length_pos_iff]
            rintro rfl
            cases hskip
          rw [UnitFile.logicalLines_comment hskip, UnitFile.logicalLines_last hnext.1 hnext.2.1]
          exact ⟨[], next, logicalLines none others, by simp,
            .inr ⟨hlong, .inr hnext.2.2, .inl rfl⟩⟩
        · rw [List.append_assoc, hno] at hskip
          cases hskip
      · rw [UnitFile.logicalLines_last (by simpa using hskip) (by simp [continued])]
        exact ⟨text, ['\''], logicalLines none (next :: others), by simp, .inl ⟨rfl, rfl, hall⟩⟩
    · -- the text itself ends the line
      have hquote : sep ≠ '\'' := by
        rintro rfl
        simp [Reader.endsLine] at hsep
      have hline : physicalLines r
          (start ++ escapeQuotes (before ++ sep :: after) ++ '\'' :: '\n' :: tail) =
          (start ++ escapeQuotes before) ::
            physicalLines r ([] ++ escapeQuotes after ++ '\'' :: '\n' :: tail) := by
        rw [← UnitFile.physicalLines_cons _ hsep]
        · simp [escapeQuotes_append, escapeQuotes_cons hquote]
        · intro c hc
          rcases List.mem_append.1 hc with hc | hc
          · exact hstart c hc
          · exact not_endsLine_escapeQuotes hbefore c hc
      have hshorter : after.length < (before ++ sep :: after).length := by
        simp only [List.length_append, List.length_cons]
        omega
      rw [hline]
      by_cases hskip : isComment (start ++ escapeQuotes before) = true
      · rcases hcomment with ⟨rfl, hpending⟩ | hno
        · rw [UnitFile.logicalLines_comment hskip]
          obtain ⟨joined, close, rest, hjoined, hclose⟩ :=
            ih after.length hshorter (by simp) (by simp) (.inl ⟨rfl, hpending⟩) rfl
          refine ⟨joined, close, rest, hjoined, .inr ?_⟩
          rcases hclose with ⟨rfl, rfl, -⟩ | ⟨hlt, hclose⟩
          · exact ⟨hshorter, .inl rfl, .inl rfl⟩
          · exact ⟨hlt.trans hshorter, hclose.1, .inl rfl⟩
        · rw [hno] at hskip
          cases hskip
      · rcases continued_escapeQuotes hend before with hlast | ⟨body, rfl, hbody⟩
        · rw [UnitFile.logicalLines_last (by simpa using hskip) hlast]
          refine ⟨before, [], logicalLines none (physicalLines r
            ([] ++ escapeQuotes after ++ '\'' :: '\n' :: tail)), by simp,
            .inr ⟨?_, .inr (by simp), .inr ⟨sep, by simp, hsep⟩⟩⟩
          simp only [List.length_append, List.length_cons]
          omega
        · -- the joined text has a space for the backslash and the end of the line
          rw [UnitFile.logicalLines_continued (by simpa using hskip) hbody]
          obtain ⟨joined, close, rest, hjoined, hclose⟩ :=
            @ih after.length hshorter after [] (some (pending.getD [] ++ (start ++
              escapeQuotes (body ++ [' '])))) (by simp) (by simp) (.inl ⟨rfl, rfl⟩) rfl
          refine ⟨body ++ ' ' :: joined, close, rest, ?_, .inr ?_⟩
          · rw [hjoined]
            simp [escapeQuotes]
          · have hle : joined.length ≤ after.length := by
              rcases hclose with ⟨rfl, -, -⟩ | ⟨hlt, -⟩ <;> omega
            refine ⟨?_, ?_, .inr ⟨sep, by simp, hsep⟩⟩
            · simp only [List.length_append, List.length_cons, List.length_nil]
              omega
            · rcases hclose with ⟨-, rfl, -⟩ | ⟨-, hclose⟩
              · exact .inl rfl
              · exact hclose.1

end Joined

/-! ### The unit file -/

/-- The unit before the command line. -/
def unitHead : String :=
  "[Unit]\nDescription=Weather Engine Daemon\nAfter=network-online.target\n\n" ++
  "[Service]\nType=simple\nExecStart="

theorem unitHead_toList :
    unitHead.toList =
      "[Unit]".toList ++ '\n' :: ("Description=Weather Engine Daemon".toList ++ '\n' ::
        ("After=network-online.target".toList ++ '\n' :: ([] ++ '\n' ::
          ("[Service]".toList ++ '\n' :: ("Type=simple".toList ++ '\n' ::
            "ExecStart=".toList))))) := by
  decide

/-- The unit after the command line. -/
def unitTail (layout : ServiceLayout) : String :=
  "\nRestart=on-failure\nRestartSec=2s" ++
    (if layout.system then "\nUser=root\nGroup=root" else "") ++ "\n\n[Install]\nWantedBy=" ++
    (if layout.system then "multi-user.target" else "default.target") ++ "\n"

theorem unitTail_toList (layout : ServiceLayout) :
    ∃ rest, (unitTail layout).toList =
      '\n' :: ("Restart=on-failure".toList ++ '\n' :: rest) := by
  have hfirst (a b c d e : String) (line rest : List Char)
      (h : a.toList = '\n' :: (line ++ '\n' :: rest)) :
      (a ++ b ++ c ++ d ++ e).toList = '\n' :: (line ++ '\n' ::
        (rest ++ b.toList ++ c.toList ++ d.toList ++ e.toList)) := by
    simp only [String.toList_append, h, List.append_assoc, List.cons_append]
  exact ⟨_, hfirst _ _ _ _ _ _ "RestartSec=2s".toList (by decide)⟩

/-- The value of the setting up to the first character of the config path. -/
def commandStart (binExe : List Char) : List Char :=
  '\'' :: (escapeQuotes binExe ++ '\'' :: (" daemon run --config ".toList ++ ['\'', '/']))

theorem renderUnit_toList {layout : ServiceLayout} {binExe : String} {path : List Char}
    (hconfig : layout.configPath.toList = '/' :: path) :
    (renderUnit layout binExe).toList =
      unitHead.toList ++ (commandStart binExe.toList ++ escapeQuotes path ++
        '\'' :: (unitTail layout).toList) := by
  have hgroup (a b c d e f g h i j : String) : a ++ b ++ c ++ d ++ e ++ f ++ g ++ h ++ i ++ j =
      (a ++ b) ++ c ++ d ++ e ++ (f ++ g ++ h ++ i ++ j) := by
    simp only [String.append_assoc]
  have hrender : renderUnit layout binExe = unitHead ++ shellEscape binExe ++
      " daemon run --config " ++ shellEscape layout.configPath ++ unitTail layout :=
    hgroup _ _ _ _ _ _ _ _ _ _
  have hescape (value : String) : (shellEscape value).toList =
      '\'' :: (escapeQuotes value.toList ++ ['\'']) := by
    simp [shellEscape]
  rw [hrender]
  simp only [String.toList_append, hescape, hconfig,
    escapeQuotes_cons (show '/' ≠ '\'' by decide), commandStart, List.append_assoc,
    List.cons_append, List.nil_append]

/-- The lines of the unit before the command line are in the section of the service. -/
theorem readSetting_unitHead (r : Reader) (value : List Char) :
    UnitFile.readSetting r "Service".toList "ExecStart".toList (unitHead.toList ++ value) =
      UnitFile.lookup "Service".toList "ExecStart".toList "Service".toList
        (logicalLines none (physicalLines r ("ExecStart=".toList ++ value))) := by
  rw [unitHead_toList, UnitFile.readSetting]
  simp only [List.append_assoc, List.cons_append]
  rw [UnitFile.physicalLines_cons (UnitFile.not_endsLine_of_all rfl) rfl,
    UnitFile.physicalLines_cons (UnitFile.not_endsLine_of_all rfl) rfl,
    UnitFile.physicalLines_cons (UnitFile.not_endsLine_of_all rfl) rfl,
    UnitFile.physicalLines_cons (UnitFile.not_endsLine_of_all rfl) rfl,
    UnitFile.physicalLines_cons (UnitFile.not_endsLine_of_all rfl) rfl,
    UnitFile.physicalLines_cons (UnitFile.not_endsLine_of_all rfl) rfl]
  rfl

/-- The value of the setting: a config path with an end of line leaves less of it. -/
theorem readSetting_renderUnit (r : Reader) {layout : ServiceLayout} {binExe : String}
    {path : List Char} (hconfig : layout.configPath.toList = '/' :: path)
    (hexe : ∀ c ∈ binExe.toList, ¬r.endsLine c) :
    ∃ joined close,
      UnitFile.readSetting r "Service".toList "ExecStart".toList (renderUnit layout binExe).toList =
        some (commandStart binExe.toList ++ escapeQuotes joined ++ close) ∧
      ((joined = path ∧ close = ['\''] ∧ ∀ c ∈ path, ¬r.endsLine c) ∨
        (joined.length < path.length ∧ (close = ['\''] ∨ '\'' ∉ close) ∧
          ∃ c ∈ path, r.endsLine c)) := by
  obtain ⟨rest, htail⟩ := unitTail_toList layout
  have hnext : physicalLines r ("Restart=on-failure".toList ++ '\n' :: rest) =
      "Restart=on-failure".toList :: physicalLines r rest :=
    UnitFile.physicalLines_cons (UnitFile.not_endsLine_of_all rfl) rfl _
  have hmiddle : ∀ c ∈ " daemon run --config ".toList ++ ['\'', '/'], ¬r.endsLine c :=
    UnitFile.not_endsLine_of_all rfl
  have hstart : ∀ c ∈ "ExecStart=".toList ++ commandStart binExe.toList, ¬r.endsLine c := by
    intro c hc
    rw [commandStart, List.mem_append, List.mem_cons, List.mem_append, List.mem_cons] at hc
    rcases hc with hc | rfl | hc | rfl | hc
    · exact UnitFile.not_endsLine_of_all rfl c hc
    · simp [Reader.endsLine]
    · exact not_endsLine_escapeQuotes hexe c hc
    · simp [Reader.endsLine]
    · exact hmiddle c hc
  have hend : ("ExecStart=".toList ++ commandStart binExe.toList).getLast? ≠ some '\\' := by
    have hlast : "ExecStart=".toList ++ commandStart binExe.toList =
        "ExecStart=".toList ++ '\'' :: (escapeQuotes binExe.toList ++
          '\'' :: (" daemon run --config ".toList ++ ['\''])) ++ ['/'] := by
      simp [commandStart]
    rw [hlast, List.getLast?_concat]
    decide
  obtain ⟨joined, close, lines, hjoined, hclose⟩ :=
    @logicalLines_escapeQuotes r _ _ _ hnext
      ⟨by decide, by decide, by decide⟩ path _ none hstart hend
      (.inr fun _ => rfl)
  refine ⟨joined, close, ?_, by simpa using hclose⟩
  rw [renderUnit_toList hconfig, readSetting_unitHead, htail]
  simp only [Option.getD_none, List.nil_append, List.append_assoc] at hjoined ⊢
  rw [hjoined]
  rfl


/-! ### The arguments -/

/-- After the command the unit has three words, and then the config path. -/
theorem items_words (r : Reader) (item rest : List Char) :
    items r (.closed item)
        (tokens r 0 (" daemon run --config ".toList ++ '\'' :: '/' :: rest)) =
      (items r (.quoted '\'' ['/']) (tokens r 0 rest)).map fun found =>
        item.reverse :: "daemon".toList :: "run".toList :: "--config".toList :: found := by
  have hwords : " daemon run --config ".toList ++ '\'' :: '/' :: rest =
      ' ' :: ("daemon".toList ++ ' ' :: ("run".toList ++ ' ' :: ("--config".toList ++
        ' ' :: '\'' :: '/' :: rest))) := by
    simp
  rw [hwords]
  simp [tokens, items, UnitFile.isSpace, UnitFile.isQuote, Option.map_map, Function.comp_def]

theorem commandStart_append (binExe rest : List Char) :
    commandStart binExe ++ rest = '\'' :: (escapeQuotes binExe ++ '\'' ::
      (" daemon run --config ".toList ++ '\'' :: '/' :: rest)) := by
  simp [commandStart]

/-- The items of the line when the path of the binary has no quotation mark and no backslash. -/
theorem items_commandStart (r : Reader) {binExe : List Char} (hquote : '\'' ∉ binExe)
    (hbackslash : '\\' ∉ binExe) (rest : List Char) :
    items r .between (tokens r 0 (commandStart binExe ++ rest)) =
      (items r (.quoted '\'' ['/']) (tokens r 0 rest)).map fun found =>
        binExe :: "daemon".toList :: "run".toList :: "--config".toList :: found := by
  rw [commandStart_append, escapeQuotes_eq_self hquote, tokens, if_neg (by decide), items,
    if_neg (by decide), if_pos (by decide),
    UnitFile.items_quoted_plain r _ _ hquote hbackslash, items_words]
  simp

/-- A reader that runs past the closing quote of the path of the binary finds the opening quote of
the config path, and a slash right after it. -/
theorem closesOnce_words (rest : List Char) :
    ClosesOnce ('\'' :: (" daemon run --config ".toList ++ '\'' :: '/' :: rest)) := by
  left
  refine ⟨_, rfl, fun item => ?_⟩
  have hquote : '\'' ∉ " daemon run --config ".toList := by decide
  have hbackslash : '\\' ∉ " daemon run --config ".toList := by decide
  rw [UnitFile.items_quoted_plain _ _ _ hquote hbackslash]
  simp [tokens, items, UnitFile.isSpace, Reader.strict]

/-- A verbatim text has none of the marks a reader looks for. -/
theorem ReadsVerbatim.not_mem {text : String} (h : ReadsVerbatim text) :
    '\'' ∉ text.toList ∧ '\\' ∉ text.toList ∧ '%' ∉ text.toList := by
  refine ⟨fun hc => ?_, fun hc => ?_, fun hc => ?_⟩
  all_goals exact h.plain _ hc (by decide)

theorem ReadsVerbatim.not_endsLine {text : String} (h : ReadsVerbatim text) (r : Reader) :
    ∀ c ∈ text.toList, ¬r.endsLine c := by
  intro c hc hends
  have := h.plain c hc
  simp only [Reader.endsLine, Bool.or_eq_true, Bool.and_eq_true, beq_iff_eq] at hends
  rcases hends with rfl | ⟨rfl, -⟩
  · exact this (by decide)
  · exact this (by decide)

/-- Verbatim paths read back as they were, whatever the reader. -/
theorem readExecStart_of_verbatim (r : Reader) {layout : ServiceLayout} {binExe : String}
    {path : List Char} (hconfig : layout.configPath.toList = '/' :: path)
    (hexe : ReadsVerbatim binExe) (hcontrol : ∀ c ∈ binExe.toList, ¬UnitFile.isControl c)
    (hplain : ReadsVerbatim layout.configPath) :
    readExecStart r (renderUnit layout binExe) = some (execArguments layout binExe) := by
  obtain ⟨hquote, hbackslash, hpercent⟩ := hexe.not_mem
  obtain ⟨hquote', hbackslash', hpercent'⟩ := hplain.not_mem
  have hends := hplain.not_endsLine r
  rw [hconfig] at hquote' hbackslash' hpercent' hends
  -- the value goes up to the closing quote of the config path
  obtain ⟨joined, close, hvalue, ⟨rfl, rfl, -⟩ | ⟨-, -, c, hc, hend⟩⟩ :=
    readSetting_renderUnit r hconfig (hexe.not_endsLine r)
  · have hpath : '\'' ∉ joined := fun hc => hquote' (List.mem_cons_of_mem _ hc)
    have hitems : items r .between
        (tokens r 0 (commandStart binExe.toList ++ escapeQuotes joined ++ ['\''])) =
        some [binExe.toList, "daemon".toList, "run".toList, "--config".toList, '/' :: joined] := by
      rw [List.append_assoc, items_commandStart r hquote hbackslash, escapeQuotes_eq_self hpath,
        UnitFile.items_quoted_plain r _ _ hpath (fun hc => hbackslash' (List.mem_cons_of_mem _ hc))]
      simp [tokens, items]
    have hwords : ∀ item ∈ ["daemon".toList, "run".toList, "--config".toList],
        '%' ∉ item ∧ UnitFile.hasReference item = false ∧ item.head? ≠ some '$' := by
      decide
    have hconfigReference : UnitFile.hasReference ('/' :: joined) = false := by
      rw [← hconfig]
      exact hplain.noReference
    have hcommand : UnitFile.readCommand r
        (commandStart binExe.toList ++ escapeQuotes joined ++ ['\'']) =
        some [binExe.toList, "daemon".toList, "run".toList, "--config".toList, '/' :: joined] := by
      apply UnitFile.readCommand_of_items hitems _ _ _ hcontrol
      · simp only [List.forall_mem_cons] at hwords ⊢
        exact ⟨hpercent, hwords.1.1, hwords.2.1.1, hwords.2.2.1.1, hpercent', by simp⟩
      · simp only [List.forall_mem_cons] at hwords ⊢
        exact ⟨hexe.noReference, hwords.1.2.1, hwords.2.1.2.1, hwords.2.2.1.2.1, hconfigReference,
          by simp⟩
      · simp only [List.forall_mem_cons] at hwords ⊢
        exact ⟨hwords.1.2.2, hwords.2.1.2.2, hwords.2.2.1.2.2, by simp, by simp⟩
    rw [readExecStart, hvalue]
    simp only [Option.bind_eq_bind, Option.bind_some, hcommand]
    simp [execArguments, ← hconfig]
  · exact absurd hend (hends c (List.mem_cons_of_mem _ hc))


/-- A path as long as what is left of it after every step has nothing a step would take away. -/
theorem verbatim_of_length {path item command argument : List Char}
    (hitem : item.length ≤ path.length)
    (hspecifiers : UnitFile.expandSpecifiers .strict item = some command)
    (hargument : argument.length ≤ command.length)
    (hreference : argument.length = command.length → UnitFile.hasReference command = false)
    (hpath : argument.length = path.length) :
    item.length = path.length ∧ '%' ∉ item ∧ UnitFile.hasReference item = false := by
  rcases UnitFile.length_of_expandSpecifiers hspecifiers with ⟨hpercent, rfl⟩ | hlt
  · exact ⟨by omega, hpercent, hreference (by omega)⟩
  · omega

/-- A text without the marks is verbatim. -/
theorem ReadsVerbatim.of_not_mem {text : String} (hquote : '\'' ∉ text.toList)
    (hbackslash : '\\' ∉ text.toList) (hpercent : '%' ∉ text.toList)
    (hends : ∀ c ∈ text.toList, ¬Reader.strict.endsLine c)
    (hreference : UnitFile.hasReference text.toList = false) : ReadsVerbatim text := by
  refine ⟨fun c hc hmark => ?_, hreference⟩
  simp only [List.mem_cons, List.not_mem_nil, or_false] at hmark
  rcases hmark with rfl | rfl | rfl | rfl | rfl
  · exact hquote hc
  · exact hbackslash hc
  · exact hpercent hc
  · exact hends _ hc rfl
  · exact hends _ hc rfl

/-- Paths that read back as they were for the strict reader are verbatim. -/
theorem verbatim_of_readExecStart {layout : ServiceLayout} {binExe : String} {path : List Char}
    (hconfig : layout.configPath.toList = '/' :: path)
    (h : readExecStart .strict (renderUnit layout binExe) = some (execArguments layout binExe)) :
    (ReadsVerbatim binExe ∧ ∀ c ∈ binExe.toList, ¬UnitFile.isControl c) ∧
      ReadsVerbatim layout.configPath := by
  simp only [readExecStart, Option.bind_eq_bind, Option.bind_eq_some_iff, Option.pure_def,
    Option.some.injEq] at h
  obtain ⟨value, hvalue, arguments, harguments, hnames⟩ := h
  obtain ⟨first, others, command, expanded, hitems, hcommand, hexpanded, rfl, hcontrol⟩ :=
    UnitFile.readCommand_strict harguments
  simp only [List.map_cons, execArguments, List.cons.injEq] at hnames
  obtain ⟨hexe, hrest⟩ := hnames
  have hexeList : UnitFile.expandVariables .strict 0 command = binExe.toList := by
    rw [← hexe, String.toList_ofList]
  rw [hexeList] at hcontrol
  -- the path of the binary has no control character, so it stays on its line
  have hexeEnds : ∀ c ∈ binExe.toList, ¬Reader.strict.endsLine c := by
    intro c hc hends
    apply hcontrol c hc
    simp only [Reader.endsLine, Bool.or_eq_true, Bool.and_eq_true, beq_iff_eq] at hends
    rcases hends with rfl | ⟨rfl, -⟩ <;> decide
  obtain ⟨joined, close, hread, hjoined⟩ := readSetting_renderUnit .strict hconfig hexeEnds
  obtain rfl := Option.some.inj (hvalue.symm.trans hread)
  -- the first item is no longer than the path it was written for
  have hfirst := hitems
  rw [List.append_assoc, commandStart_append, tokens, if_neg (by decide), items,
    if_neg (by decide), if_pos (by decide)] at hfirst
  obtain ⟨first', others', heq, hlength, hplain⟩ :=
    items_escapeQuotes (closesOnce_words _) hfirst
  obtain ⟨rfl, rfl⟩ := List.cons.inj heq
  obtain ⟨hsame, hpercent, hreference⟩ := @verbatim_of_length binExe.toList _ _ _
    (by simpa using hlength) hcommand (UnitFile.length_expandVariables_strict 0 command)
    UnitFile.hasReference_of_length (by rw [hexeList])
  obtain ⟨hquote, hbackslash⟩ := hplain _ rfl (by simpa using hsame)
  -- so it is the path, and the line goes on with the words and the config path
  rw [List.append_assoc, items_commandStart _ hquote hbackslash, Option.map_eq_some_iff] at hitems
  obtain ⟨found, hfound, hothers⟩ := hitems
  obtain ⟨rfl, rfl⟩ := List.cons.inj hothers
  have hclose : ClosesOnce close := by
    rcases hjoined with ⟨-, rfl, -⟩ | ⟨-, rfl | hno, -⟩
    · exact .inl ⟨[], rfl, fun _ => rfl⟩
    · exact .inl ⟨[], rfl, fun _ => rfl⟩
    · exact .inr hno
  obtain ⟨fifth, more, rfl, hlength', hplain'⟩ := items_escapeQuotes hclose hfound
  simp only [List.mapM_cons, Option.pure_def, Option.bind_eq_bind, Option.bind_eq_some_iff,
    Option.some.injEq] at hexpanded
  obtain ⟨daemon, hdaemon, _, ⟨run, hrun, _, ⟨flag, hflag, _, ⟨item, hitem, tail, -, rfl⟩, rfl⟩,
    rfl⟩, rfl⟩ := hexpanded
  obtain rfl : "daemon".toList = daemon := Option.some.inj hdaemon
  obtain rfl : "run".toList = run := Option.some.inj hrun
  obtain rfl : "--config".toList = flag := Option.some.inj hflag
  obtain ⟨argument, hargument, hshorter, hsame'⟩ := UnitFile.expandArgument_strict item
  have hpath : argument = '/' :: path := by
    have hwords : ∀ word ∈ ["daemon".toList, "run".toList, "--config".toList],
        UnitFile.expandArgument .strict word = [word] := by
      decide
    rw [List.flatMap_cons, List.flatMap_cons, List.flatMap_cons, List.flatMap_cons, hargument,
      hwords _ (by simp), hwords _ (by simp), hwords _ (by simp)] at hrest
    simp only [List.singleton_append, List.map_cons, List.cons.injEq] at hrest
    rw [← hconfig, ← hrest.2.2.2.1, String.toList_ofList]
  -- nothing was taken away from the config path either, so it has no end of line
  have hle : fifth.length ≤ ('/' :: path).length := by
    have : joined.length ≤ path.length := by
      rcases hjoined with ⟨rfl, -, -⟩ | ⟨hlt, -, -⟩ <;> omega
    simp only [List.length_cons, List.length_nil] at hlength' ⊢
    omega
  obtain ⟨hlong, hpercent', hreference'⟩ := verbatim_of_length hle hitem hshorter
    (fun heq => (hsame' heq).2) (by rw [hpath])
  obtain ⟨rfl, rfl, hends⟩ | ⟨hlt, -, -⟩ := hjoined
  · obtain ⟨hquote', hbackslash'⟩ := hplain' [] rfl (by simpa [Nat.add_comm] using hlong)
    rw [escapeQuotes_eq_self hquote', UnitFile.items_quoted_plain _ _ _ hquote' hbackslash'] at hfound
    obtain ⟨rfl, rfl⟩ : '/' :: joined = fifth ∧ [] = more := by
      simpa [tokens, items] using hfound
    refine ⟨⟨.of_not_mem hquote hbackslash hpercent hexeEnds hreference, hcontrol⟩, ?_⟩
    apply ReadsVerbatim.of_not_mem
    all_goals rw [hconfig]
    · simpa using hquote'
    · simpa using hbackslash'
    · exact hpercent'
    · simpa [Reader.endsLine] using hends
    · exact hreference'
  · simp only [List.length_cons, List.length_nil] at hlong hlength'
    omega

/-- The line reads back as the arguments it was written for, for every reader, exactly if no
character of either path means something to a reader and the path of the binary has no control
character. -/
theorem unit_reads_back_iff (layout : ServiceLayout) (binExe : String)
    (haccepted : InstallerAccepts layout binExe) :
    (∀ r, readExecStart r (renderUnit layout binExe) = some (execArguments layout binExe)) ↔
      (ReadsVerbatim binExe ∧ ∀ c ∈ binExe.toList, ¬UnitFile.isControl c) ∧
        ReadsVerbatim layout.configPath := by
  obtain ⟨path, hconfig⟩ : ∃ path, layout.configPath.toList = '/' :: path := by
    have habsolute : isAbsolute layout.configPath = true := by
      by_contra hno
      have := haccepted.2
      simp [componentEntry, hno, Except.isOk, Except.toBool] at this
    simpa [isAbsolute, List.head?_eq_some_iff] using habsolute
  constructor
  · intro h
    exact verbatim_of_readExecStart hconfig (h .strict)
  · rintro ⟨⟨hexe, hcontrol⟩, hplain⟩ r
    exact readExecStart_of_verbatim r hconfig hexe hcontrol hplain

/-- Spaces in the paths do no harm. -/
theorem unit_reads_back_sample :
    readExecStart .strict
        (renderUnit ⟨true, "/etc/weather.toml"⟩ "/opt/my apps/bin/weather.app") =
      some (execArguments ⟨true, "/etc/weather.toml"⟩ "/opt/my apps/bin/weather.app") := by
  refine (unit_reads_back_iff ⟨true, "/etc/weather.toml"⟩ "/opt/my apps/bin/weather.app"
    (by decide)).2 ⟨⟨⟨?_, by decide⟩, ?_⟩, ⟨?_, by decide⟩⟩ .strict
  · simp
  · simp [UnitFile.isControl]
  · simp

/-- A unit written for a directory with two percent signs starts a binary under another one. -/
theorem unit_percent_lost :
    ¬∀ (layout : ServiceLayout) (binExe : String), InstallerAccepts layout binExe →
      ∀ r, readExecStart r (renderUnit layout binExe) = some (execArguments layout binExe) := by
  intro h
  have hread :=
    h ⟨true, "/etc/weather.toml"⟩ "/opt/100%%/bin/weather.app" (by decide) .strict
  -- the two percent signs are read as one
  have hconfig : "/etc/weather.toml".toList = '/' :: "etc/weather.toml".toList := by simp
  have hexe := (verbatim_of_readExecStart hconfig hread).1.1
  exact hexe.plain '%' (by simp) (by decide)

end WeatherApp
