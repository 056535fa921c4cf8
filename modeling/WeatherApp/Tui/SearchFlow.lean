import WeatherApp.Renderer.SearchLaw
import WeatherApp.Tui.ChangeLaw
import WeatherApp.Tui.Ledger

/-!
# The pages of a search on their way

The task of a search sends one page after the other, and the state of the search takes them in that
order. In between they wait in the channel, among the answers of other tasks and late pages of older
searches.

## Main definitions

* `Flow`: what is on its way continues what has been taken, and the task continues that.
* `Searching`: it does so for the search that is under way.

## Main results

* `Searching.change`, `Searching.taskMove`, `Searching.receipt`: it goes on doing so.
-/

namespace WeatherApp.Tui

/-- The answer is one of the search with that token. -/
def EffectResult.ofSearch (token : ℕ) : EffectResult → Bool
  | .searchPage page => page.token = token
  | .searchFailed of _ => of = token
  | .weather _ _ _ | .preview _ _ _ | .config _ _ | .about _ | .taskFailed _ => false

/-- What is on its way to a search that has come to an offset: pages that continue each other, and
then either the end of the search or a task that is at the next page. Where the task is `lost`,
nothing follows. -/
inductive Flow (lost : Prop) : ℕ → List EffectResult → Option SearchStage → Prop
  | waits (cursor : PageCursor) : Flow lost cursor.offset [] (some (.awaiting cursor cursor.offset))
  | fails (offset : ℕ) (message : String) : Flow lost offset [] (some (.failing message))
  | gone (offset : ℕ) : lost → Flow lost offset [] none
  | page {page : SearchPage} {rest : List EffectResult} {stage : Option SearchStage} :
      page.hasMore = true → Flow lost page.nextOffset rest stage →
      Flow lost page.requestedOffset (.searchPage page :: rest) stage
  | last {page : SearchPage} : page.hasMore = false →
      Flow lost page.requestedOffset [.searchPage page] none
  | failed (offset token : ℕ) (message : String) :
      Flow lost offset [.searchFailed token message] none

section Flow

variable {lost lost' : Prop} {offset : ℕ} {news more : List EffectResult}
  {stage stage' : Option SearchStage} {current : SearchStage}

/-- What the task does next comes after what is on its way. -/
theorem Flow.extend (h : Flow lost offset news (some current))
    (hnext : ∀ offset, Flow lost offset [] (some current) → Flow lost' offset more stage') :
    Flow lost' offset (news ++ more) stage' := by
  generalize hstage : some current = stage at h
  induction h with
  | waits cursor =>
    apply hnext
    rw [hstage]
    exact .waits cursor
  | fails offset message =>
    apply hnext
    rw [hstage]
    exact .fails offset message
  | page hmore _ ih => exact .page hmore (ih hstage)
  | gone | last | failed => cases hstage

theorem Flow.imp (h : Flow lost offset news stage) (hlost : lost → lost') :
    Flow lost' offset news stage := by
  induction h with
  | waits cursor => exact .waits cursor
  | fails offset message => exact .fails offset message
  | gone offset hgone => exact .gone offset (hlost hgone)
  | page hmore _ ih => exact .page hmore ih
  | last hmore => exact .last hmore
  | failed offset token message => exact .failed offset token message

/-- What a page that is on its way says. -/
theorem Flow.page_inv {page : SearchPage} (h : Flow lost offset (.searchPage page :: news) stage) :
    page.requestedOffset = offset ∧ ((page.hasMore = true ∧ Flow lost page.nextOffset news stage) ∨
      (page.hasMore = false ∧ news = [] ∧ stage = none)) := by
  cases h with
  | page hmore hrest => exact ⟨rfl, .inl ⟨hmore, hrest⟩⟩
  | last hmore => exact ⟨rfl, .inr ⟨hmore, rfl, rfl⟩⟩

/-- Where nothing is on its way there is a task, unless it is lost. -/
theorem Flow.nil_inv (h : Flow lost offset [] stage) : (∃ current, stage = some current) ∨ lost := by
  cases h with
  | waits => exact .inl ⟨_, rfl⟩
  | fails => exact .inl ⟨_, rfl⟩
  | gone _ hlost => exact .inr hlost

/-- At the head of its loop the task is at the offset of its cursor. -/
theorem flow_next (lost : Prop) (cursor : PageCursor) :
    Flow lost cursor.offset [] (some (.next cursor)) := by
  rw [SearchStage.next]
  split
  next offset size asked hrequest =>
    obtain ⟨rfl, -, rfl, -⟩ := request_eq_ok hrequest
    exact .waits { cursor with requestCount := cursor.requestCount + 1 }
  next => exact .fails _ _

end Flow

/-- The task of the search with that token is at the stage, if there is one. -/
def Carried (runner : EffectRunner) (token : ℕ) : Option SearchStage → Prop
  | some stage => ∃ id query, runner.tasks.get id = some (.search token query stage) ∧
      id ∉ runner.aborted ∧ ∀ id' query' stage',
        runner.tasks.get id' = some (.search token query' stage') → id' = id
  | none => ∀ id query stage, runner.tasks.get id ≠ some (.search token query stage)

/-- A task of the search has panicked. -/
def Lost (runner : EffectRunner) (token : ℕ) : Prop :=
  ∃ query stage, Task.search token query stage ∈ runner.panicked

/-- The answers of the search with that token. -/
def EffectRunner.news (runner : EffectRunner) (token : ℕ) : List EffectResult :=
  runner.channel.filter (·.ofSearch token)

/-- The searches are in step with the application. -/
structure Searching (search : SearchState) (runner : EffectRunner) : Prop where
  task_le : ∀ id token query stage, runner.tasks.get id = some (.search token query stage) →
    token ≤ search.token
  news_le : ∀ token, runner.news token ≠ [] → token ≤ search.token
  flow : search.status = .loading → ∃ stage, Carried runner search.token stage ∧
    Flow (Lost runner search.token) search.nextOffset (runner.news search.token) stage

/-- The runners have the same searches. -/
structure SameSearches (runner runner' : EffectRunner) : Prop where
  tasks_iff : ∀ id token query stage,
    runner'.tasks.get id = some (.search token query stage) ↔
      runner.tasks.get id = some (.search token query stage)
  news_eq : ∀ token, runner'.news token = runner.news token
  aborted_subset : runner'.aborted ⊆ runner.aborted
  lost_iff : ∀ token, Lost runner' token ↔ Lost runner token

section

variable {search search' : SearchState} {runner runner' : EffectRunner}

theorem SameSearches.refl (runner : EffectRunner) : SameSearches runner runner :=
  ⟨fun _ _ _ _ => Iff.rfl, fun _ => rfl, subset_rfl, fun _ => Iff.rfl⟩

theorem SameSearches.trans {runner₁ : EffectRunner} (h : SameSearches runner runner₁)
    (h' : SameSearches runner₁ runner') : SameSearches runner runner' where
  tasks_iff id token query stage :=
    (h'.tasks_iff id token query stage).trans (h.tasks_iff id token query stage)
  news_eq token := (h'.news_eq token).trans (h.news_eq token)
  aborted_subset := h'.aborted_subset.trans h.aborted_subset
  lost_iff token := (h'.lost_iff token).trans (h.lost_iff token)

theorem Carried.congr {token : ℕ} {stage : Option SearchStage} (h : Carried runner token stage)
    (hsame : SameSearches runner runner') : Carried runner' token stage := by
  cases stage with
  | none =>
    intro id query stage htask
    exact h id query stage ((hsame.tasks_iff id token query stage).1 htask)
  | some stage =>
    obtain ⟨id, query, htask, haborted, honly⟩ := h
    refine ⟨id, query, (hsame.tasks_iff id token query stage).2 htask, fun hid => ?_, ?_⟩
    · exact haborted (hsame.aborted_subset hid)
    · intro id' query' stage' htask'
      exact honly id' query' stage' ((hsame.tasks_iff id' token query' stage').1 htask')

/-- The searches go on where nothing happens to them. -/
theorem Searching.congr (h : Searching search runner) (hsame : SameSearches runner runner')
    (htoken : search'.token = search.token)
    (hstatus : search'.status = .loading → search.status = .loading)
    (hoffset : search'.nextOffset = search.nextOffset) : Searching search' runner' where
  task_le id token query stage htask := by
    rw [htoken]
    exact h.task_le id token query stage ((hsame.tasks_iff id token query stage).1 htask)
  news_le token hnews := by
    rw [hsame.news_eq] at hnews
    rw [htoken]
    exact h.news_le token hnews
  flow hloading := by
    obtain ⟨stage, hcarried, hflow⟩ := h.flow (hstatus hloading)
    rw [htoken, hoffset, hsame.news_eq]
    exact ⟨stage, hcarried.congr hsame, hflow.imp (hsame.lost_iff search.token).2⟩

/-! ## Tasks -/

/-- There is only one task of the search. -/
theorem Carried.eq_some {token id : ℕ} {query : String} {current : SearchStage}
    {stage : Option SearchStage} (h : Carried runner token stage)
    (htask : runner.tasks.get id = some (.search token query current)) :
    stage = some current ∧ id ∉ runner.aborted ∧ ∀ id' query' stage',
      runner.tasks.get id' = some (.search token query' stage') → id' = id := by
  cases stage with
  | none => exact absurd htask (h id query current)
  | some stage =>
    obtain ⟨id₀, query₀, htask₀, haborted, honly⟩ := h
    obtain rfl := honly id query current htask
    rw [htask₀, Option.some.injEq, Task.search.injEq] at htask
    obtain ⟨-, -, rfl⟩ := htask
    exact ⟨rfl, haborted, honly⟩

/-- The end of another task changes nothing about the task of the search. -/
theorem Carried.remove {token id : ℕ} {stage : Option SearchStage} (h : Carried runner token stage)
    (hother : ∀ query stage, runner.tasks.get id = some (.search token query stage) →
      id ∈ runner.aborted) {channel : List EffectResult} {failures : List String}
    {panicked : List Task} :
    Carried { runner with tasks := runner.tasks.remove id, channel, failures, panicked } token
      stage := by
  cases stage with
  | none =>
    intro id' query stage htask
    exact h id' query stage (KeyedMap.get_of_get_remove htask)
  | some stage =>
    obtain ⟨id₀, query, htask, haborted, honly⟩ := h
    have hne : id₀ ≠ id := by
      rintro rfl
      exact haborted (hother query stage htask)
    refine ⟨id₀, query, ?_, haborted, fun id' query' stage' htask' => ?_⟩
    · show (runner.tasks.remove id).get id₀ = _
      rw [KeyedMap.get_remove, if_neg hne, htask]
    · exact honly id' query' stage' (KeyedMap.get_of_get_remove htask')

/-- A task ends. What it sends last completes what is on its way. -/
theorem Searching.remove {id : ℕ} {last : List EffectResult} {failures : List String}
    {panicked : List Task} (h : Searching search runner)
    (hlast : ∀ token, last.filter (·.ofSearch token) ≠ [] →
      ∃ query stage, runner.tasks.get id = some (.search token query stage))
    (hpanicked : runner.panicked ⊆ panicked)
    (hflow : ∀ query stage offset, runner.tasks.get id = some (.search search.token query stage) →
      id ∉ runner.aborted → Flow (Lost runner search.token) offset [] (some stage) →
      Flow (∃ query stage, Task.search search.token query stage ∈ panicked) offset
        (last.filter (·.ofSearch search.token)) none) :
    Searching search { runner with
      tasks := runner.tasks.remove id
      channel := runner.channel ++ last
      failures
      panicked } := by
  have hnews (token : ℕ) : EffectRunner.news { runner with
      tasks := runner.tasks.remove id
      channel := runner.channel ++ last
      failures
      panicked } token = runner.news token ++ last.filter (·.ofSearch token) :=
    List.filter_append _ _
  refine ⟨fun id' token query stage htask => ?_, fun token hsome => ?_, fun hloading => ?_⟩
  · exact h.task_le id' token query stage (KeyedMap.get_of_get_remove htask)
  · rw [hnews, ne_eq, List.append_eq_nil_iff, not_and_or] at hsome
    rcases hsome with hsome | hsome
    · exact h.news_le token hsome
    · obtain ⟨query, stage, htask⟩ := hlast token hsome
      exact h.task_le id token query stage htask
  · obtain ⟨stage, hcarried, hon⟩ := h.flow hloading
    rw [hnews]
    by_cases hends : ∃ query current,
        runner.tasks.get id = some (.search search.token query current) ∧ id ∉ runner.aborted
    · -- It is the task of this search.
      obtain ⟨query, current, htask, haborted⟩ := hends
      obtain ⟨rfl, -, honly⟩ := hcarried.eq_some htask
      refine ⟨none, fun id' query' stage' htask' => ?_, hon.extend fun offset =>
        hflow query current offset htask haborted⟩
      have hremoved : (runner.tasks.remove id).get id' = _ := htask'
      rw [honly id' query' stage' (KeyedMap.get_of_get_remove htask'), KeyedMap.get_remove,
        if_pos rfl] at hremoved
      cases hremoved
    · have hother : ∀ query stage, runner.tasks.get id = some (.search search.token query stage) →
          id ∈ runner.aborted := by
        intro query stage htask
        by_contra haborted
        exact hends ⟨query, stage, htask, haborted⟩
      refine ⟨stage, hcarried.remove hother, ?_⟩
      have hnone : last.filter (·.ofSearch search.token) = [] := by
        by_contra hsome
        obtain ⟨query, current, htask⟩ := hlast search.token hsome
        exact hends ⟨query, current, htask, (hcarried.eq_some htask).2.1⟩
      rw [hnone, List.append_nil]
      refine hon.imp fun hlost => ?_
      obtain ⟨query, stage, hmem⟩ := hlost
      exact ⟨query, stage, hpanicked hmem⟩

/-- The task of the search goes on. -/
theorem Carried.set_self {token id : ℕ} {query : String} {current : SearchStage}
    {stage : Option SearchStage} (h : Carried runner token stage)
    (htask : runner.tasks.get id = some (.search token query current)) (next : SearchStage)
    {channel : List EffectResult} :
    Carried { runner with tasks := runner.tasks.set id (.search token query next), channel } token
      (some next) := by
  obtain ⟨-, haborted, honly⟩ := h.eq_some htask
  refine ⟨id, query, KeyedMap.get_set_self _ _ _, haborted, fun id' query' stage' htask' => ?_⟩
  by_contra hne
  have hbefore : (runner.tasks.set id (.search token query next)).get id' = _ := htask'
  rw [KeyedMap.get_set_of_ne hne] at hbefore
  exact hne (honly id' query' stage' hbefore)

/-- The task of another search goes on. -/
theorem Carried.set_of_ne {token other id : ℕ} {query : String} {current : SearchStage}
    {stage : Option SearchStage} (h : Carried runner token stage)
    (htask : runner.tasks.get id = some (.search other query current)) (hne : other ≠ token)
    (next : SearchStage) {channel : List EffectResult} :
    Carried { runner with tasks := runner.tasks.set id (.search other query next), channel } token
      stage := by
  -- The tasks of this search are those of before.
  have hbefore {id' : ℕ} {query' : String} {stage' : SearchStage}
      (htask' : (runner.tasks.set id (.search other query next)).get id' =
        some (.search token query' stage')) :
      runner.tasks.get id' = some (.search token query' stage') := by
    rw [KeyedMap.get_set] at htask'
    split_ifs at htask'
    · cases htask'
      exact absurd rfl hne
    · exact htask'
  cases stage with
  | none => exact fun id' query' stage' htask' => h id' query' stage' (hbefore htask')
  | some stage =>
    obtain ⟨id₀, query₀, htask₀, haborted, honly⟩ := h
    refine ⟨id₀, query₀, ?_, haborted, fun id' query' stage' htask' =>
      honly id' query' stage' (hbefore htask')⟩
    have hid : id₀ ≠ id := by
      rintro rfl
      cases htask₀.symm.trans htask
      exact hne rfl
    exact (KeyedMap.get_set_of_ne hid).trans htask₀

/-- The answer of a task is one of its search. -/
theorem Replies.ofSearch {task : Task} {result : EffectResult} {token : ℕ} (h : Replies task result)
    (hof : result.ofSearch token = true) : ∃ query stage, task = .search token query stage := by
  cases h with
  | searchFailed of query stage message =>
    obtain rfl : of = token := of_decide_eq_true hof
    exact ⟨query, stage, rfl⟩
  | lastPage of query cursor offset stations nextOffset =>
    obtain rfl : of = token := of_decide_eq_true hof
    exact ⟨query, _, rfl⟩
  | weather | preview | config | about => cases hof

/-- The last answer of a search completes it. -/
theorem flow_of_replies {lost : Prop} {offset token : ℕ} {query : String} {stage : SearchStage}
    {result : EffectResult} (hreply : Replies (.search token query stage) result)
    (h : Flow lost offset [] (some stage)) (lost' : Prop) :
    Flow lost' offset ([result].filter (·.ofSearch token)) none := by
  have hof : result.ofSearch token = true := by
    cases hreply <;> exact decide_eq_true rfl
  rw [List.filter_singleton, hof]
  cases hreply with
  | searchFailed _ _ _ message => exact .failed offset token message
  | lastPage _ _ cursor _ stations nextOffset =>
    cases h with
    | waits =>
      have hlast (page : SearchPage) (hmore : page.hasMore = false) :
          Flow lost' page.requestedOffset [.searchPage page] none := .last hmore
      exact hlast ⟨token, cursor.offset, stations, false, nextOffset⟩ rfl

/-- The task of a search sends a page and goes on. -/
theorem Searching.page {id token : ℕ} {query : String} {cursor next : PageCursor}
    {offset nextOffset : ℕ} {stations : List StationRef} (h : Searching search runner)
    (htask : runner.tasks.get id = some (.search token query (.awaiting cursor offset)))
    (hadvance : cursor.advance true nextOffset = .ok (true, next)) :
    Searching search { runner with
      tasks := runner.tasks.set id (.search token query (.next next))
      channel := runner.channel ++ [.searchPage ⟨token, offset, stations, true, nextOffset⟩] } := by
  have hnews (of : ℕ) : EffectRunner.news { runner with
      tasks := runner.tasks.set id (.search token query (.next next))
      channel := runner.channel ++ [.searchPage ⟨token, offset, stations, true, nextOffset⟩] } of =
      runner.news of ++ if token = of then
        [.searchPage ⟨token, offset, stations, true, nextOffset⟩] else [] := by
    refine (List.filter_append _ _).trans (congrArg _ ?_)
    rw [List.filter_singleton]
    simp [EffectResult.ofSearch]
  have htoken := h.task_le id token query _ htask
  refine ⟨fun id' of query' stage' htask' => ?_, fun of hsome => ?_, fun hloading => ?_⟩
  · have hset : (runner.tasks.set id (.search token query (.next next))).get id' = _ := htask'
    rw [KeyedMap.get_set] at hset
    split_ifs at hset
    · cases hset
      exact htoken
    · exact h.task_le id' of query' stage' hset
  · rw [hnews, ne_eq, List.append_eq_nil_iff, not_and_or] at hsome
    rcases hsome with hsome | hsome
    · exact h.news_le of hsome
    · split_ifs at hsome with heq
      · exact heq ▸ htoken
      · exact absurd rfl hsome
  · obtain ⟨stage, hcarried, hon⟩ := h.flow hloading
    rw [hnews]
    split_ifs with heq
    · subst heq
      obtain ⟨rfl, -, -⟩ := hcarried.eq_some htask
      refine ⟨some (.next next), hcarried.set_self htask (.next next), ?_⟩
      refine hon.extend fun from' hwaits => ?_
      obtain ⟨-, rfl⟩ := advance_eq_ok_true hadvance
      cases hwaits with
      | waits =>
        have hpage (page : SearchPage) (hmore : page.hasMore = true)
            (hnext : page.nextOffset = nextOffset) :
            Flow (Lost runner search.token) page.requestedOffset [.searchPage page]
              (some (.next { cursor with offset := nextOffset })) := by
          refine .page hmore ?_
          rw [hnext]
          exact flow_next _ { cursor with offset := nextOffset }
        exact hpage ⟨search.token, cursor.offset, stations, true, nextOffset⟩ rfl rfl
    · rw [List.append_nil]
      exact ⟨stage, hcarried.set_of_ne htask heq _, hon⟩

/-- A step of a task keeps the searches in step with the application. -/
theorem Searching.taskMove (h : Searching search runner) (hmove : TaskMove runner runner') :
    Searching search runner' := by
  cases hmove with
  | @finish id task result htask hreply =>
    refine h.remove (fun token hsome => ?_) (List.Subset.refl _) ?_
    · have hof : result.ofSearch token = true := by
        by_contra hother
        rw [List.filter_singleton, Bool.eq_false_iff.2 hother] at hsome
        exact hsome rfl
      obtain ⟨query, stage, rfl⟩ := hreply.ofSearch hof
      exact ⟨query, stage, htask⟩
    · intro query stage offset hsearch _ hflow
      obtain rfl := Option.some.inj (htask.symm.trans hsearch)
      exact flow_of_replies hreply hflow _
  | page stations htask hadvance => exact h.page htask hadvance
  | @cancelled id haborted =>
    have hremoved : Searching search { runner with
        tasks := runner.tasks.remove id
        channel := runner.channel ++ [] } :=
      h.remove (fun token hsome => absurd rfl hsome) (List.Subset.refl _)
        fun query stage offset _ hid => absurd haborted hid
    rwa [List.append_nil] at hremoved
  | @panic id task message htask =>
    have hremoved : Searching search { runner with
        tasks := runner.tasks.remove id
        channel := runner.channel ++ []
        failures := runner.failures ++ [message]
        panicked := runner.panicked ++ [task] } := by
      refine h.remove (fun token hsome => absurd rfl hsome) (List.subset_append_left _ _) ?_
      intro query stage offset hsearch _ _
      obtain rfl := Option.some.inj (htask.symm.trans hsearch)
      exact .gone offset ⟨query, stage, List.mem_append_right _ (List.mem_singleton_self _)⟩
    rwa [List.append_nil] at hremoved

end

/-! ## The loop -/

section

variable {c c' before : Core} {search search' : SearchState} {runner : EffectRunner}
  {effects : List Effect}

theorem ofSearch_taskFailed (token : ℕ) (failed : List String) :
    (failed.map EffectResult.taskFailed).filter (·.ofSearch token) = [] := by
  refine List.filter_eq_nil_iff.2 fun result hresult => ?_
  obtain ⟨message, -, rfl⟩ := List.mem_map.1 hresult
  exact Bool.false_ne_true

theorem news_reapCompleted (runner : EffectRunner) (token : ℕ) :
    runner.reapCompleted.news token = runner.news token := by
  obtain ⟨failed, hfailed⟩ := channel_reapCompleted runner
  rw [EffectRunner.news, hfailed, List.filter_append, ofSearch_taskFailed, List.append_nil,
    EffectRunner.news]

theorem SameSearches.reapCompleted (runner : EffectRunner) :
    SameSearches runner runner.reapCompleted :=
  ⟨fun _ _ _ _ => Iff.rfl, news_reapCompleted runner, subset_rfl, fun _ => Iff.rfl⟩

/-- The search is over, and what it has on its way is of older searches. -/
theorem Searching.leave {runner' : EffectRunner} (h : Searching search runner)
    (htoken : search.token ≤ search'.token) (hstatus : search'.status ≠ .loading)
    (htasks : runner'.tasks = runner.tasks)
    (hnews : ∀ token, runner'.news token ≠ [] → runner.news token ≠ []) :
    Searching search' runner' where
  task_le id token query stage htask := by
    rw [htasks] at htask
    exact (h.task_le id token query stage htask).trans htoken
  news_le token hsome := by
    exact (h.news_le token (hnews token hsome)).trans htoken
  flow hloading := absurd hloading hstatus

/-- A task of no search is new. -/
theorem get_set_search (hvalid : runner.Valid) {task : Task} (hother : task.isSearch = false)
    (id token : ℕ) (query : String) (stage : SearchStage) :
    (runner.tasks.set runner.nextTask task).get id = some (.search token query stage) ↔
      runner.tasks.get id = some (.search token query stage) := by
  rw [KeyedMap.get_set]
  split_ifs with hid
  · subst hid
    constructor
    · intro heq
      cases heq
      cases hother
    · intro hget
      exact absurd (hvalid.fresh _ _ hget) (lt_irrefl _)
  · exact Iff.rfl

theorem start_eq {token : ℕ} {query : String} (h : search.start = some (search', token, query)) :
    search'.token = search.token + 1 ∧ search'.nextOffset = 0 ∧ token = search.token + 1 := by
  obtain ⟨bumped, hbumped, heq⟩ := Option.map_eq_some_iff.1 h
  obtain rfl := eq_of_bumpToken hbumped
  cases heq
  exact ⟨rfl, rfl, rfl⟩

variable [Sha256]

theorem news_dispatch (runner : EffectRunner) (effect : Effect) (token : ℕ) :
    (runner.dispatch effect).news token = runner.news token := by
  rw [EffectRunner.news, (channel_dispatch runner effect).1]
  exact news_reapCompleted runner token

/-- An effect that is of no search. -/
theorem SameSearches.dispatch (hvalid : runner.Valid) {effect : Effect}
    (hcancel : effect ≠ .cancelSearch) (hsearch : ∀ token query, effect ≠ .search token query) :
    SameSearches runner (runner.dispatchAll [effect]) := by
  rw [dispatchAll_singleton]
  have hlost (token : ℕ) : Lost (runner.dispatch effect) token ↔ Lost runner token := by
    rw [Lost, (channel_dispatch runner effect).2, Lost]
  cases effect with
  | cancelSearch => exact absurd rfl hcancel
  | search token query => exact absurd rfl (hsearch token query)
  | loadWeather | preview | updateConfig | loadAbout =>
    exact ⟨get_set_search hvalid rfl, news_dispatch runner _, subset_rfl, hlost⟩

/-- A search that starts has nothing on its way yet. -/
theorem Searching.start {token : ℕ} {query : String} (hvalid : runner.Valid)
    (h : Searching search runner) (hstart : search.start = some (search', token, query)) :
    Searching search' (runner.dispatch (.search token query)) := by
  obtain ⟨htoken, hoffset, rfl⟩ := start_eq hstart
  have htasks (id : ℕ) : (runner.dispatch (.search (search.token + 1) query)).tasks.get id =
      if id = runner.nextTask then some (.search (search.token + 1) query (.next .default))
      else runner.tasks.get id :=
    KeyedMap.get_set _ _ _ _
  refine ⟨fun id of query' stage htask => ?_, fun of hsome => ?_, fun _ => ?_⟩
  · rw [htasks] at htask
    split_ifs at htask
    · cases htask
      exact htoken.ge
    · have hle := h.task_le id of query' stage htask
      omega
  · rw [news_dispatch] at hsome
    have hle := h.news_le of hsome
    omega
  · have hnone : runner.news (search.token + 1) = [] := by
      by_contra hsome
      have hle := h.news_le _ hsome
      omega
    rw [htoken, hoffset, news_dispatch, hnone]
    refine ⟨some (.next .default), ⟨runner.nextTask, query, ?_, fun haborted => ?_, ?_⟩,
      flow_next _ .default⟩
    · rw [htasks, if_pos rfl]
    · -- only tasks that were there before are aborted
      rcases Finset.mem_union.1 haborted with haborted | haborted
      · exact absurd (hvalid.aborted _ haborted).1 (lt_irrefl _)
      · have hold := hvalid.reapCompleted.search _ (Option.mem_toFinset.1 haborted)
        exact absurd hold.1 (lt_irrefl _)
    · intro id query' stage htask
      by_contra hne
      rw [htasks, if_neg hne] at htask
      have hle := h.task_le id _ query' stage htask
      omega

/-- Asking for the weather has to do with no search. -/
theorem sameSearches_asks (hvalid : runner.Valid) (hasks : Asks c effects c') :
    SameSearches runner (runner.dispatchAll effects) ∧ c'.search = c.search := by
  cases hasks with
  | nothing => exact ⟨.refl runner, rfl⟩
  | request =>
    refine ⟨.dispatch hvalid ?_ ?_, rfl⟩
    · exact fun heq => by cases heq
    · exact fun _ _ heq => by cases heq

theorem sameSearches_follows (hvalid : runner.Valid) (hfollows : Follows before c effects c') :
    SameSearches runner (runner.dispatchAll effects) ∧ c'.search = c.search := by
  cases hfollows with
  | same => exact ⟨.refl runner, rfl⟩
  | asks hasks => exact sameSearches_asks hvalid hasks

/-- A change keeps the searches in step with the application. -/
theorem Searching.change (hvalid : runner.Valid) (h : Searching c.search runner)
    (hchange : Change c effects c') : Searching c'.search (runner.dispatchAll effects) := by
  have hsame {effects : List Effect} {search : SearchState}
      (hsame : SameSearches runner (runner.dispatchAll effects) ∧ search = c.search) :
      Searching search (runner.dispatchAll effects) := by
    obtain ⟨hsame, rfl⟩ := hsame
    exact h.congr hsame rfl (fun hloading => hloading) rfl
  cases hchange with
  | preview | about | propose =>
    refine hsame ⟨.dispatch hvalid ?_ ?_, rfl⟩
    · exact fun heq => by cases heq
    · exact fun _ _ heq => by cases heq
  | point | pickUp | carry | putDown => exact h
  | turn _ hfollows =>
    obtain ⟨hsearches, hsearch⟩ := sameSearches_follows hvalid hfollows
    exact hsame ⟨hsearches, hsearch⟩
  | ask hasks => exact hsame (sameSearches_asks hvalid hasks)
  | browse _ htoken hstatus hoffset =>
    exact h.congr (.refl runner) htoken (fun hloading => hstatus ▸ hloading) hoffset
  | leave _ htoken hstatus heffects =>
    have hidle : ∀ {status : SearchStatus}, status = .idle → status ≠ .loading := by
      rintro _ rfl
      exact fun heq => by cases heq
    rcases heffects with rfl | rfl
    · exact h.leave (htoken ▸ Nat.le_succ _) (hidle hstatus) rfl fun _ hsome => hsome
    · refine h.leave (htoken ▸ Nat.le_succ _) (hidle hstatus) rfl fun token hsome => ?_
      rwa [dispatchAll_singleton, news_dispatch] at hsome
  | search hstart => exact h.start hvalid hstart

omit [Sha256] in
/-- The answers of a search that are left when one is taken. -/
theorem news_take {result : EffectResult} {channel : List EffectResult}
    (hchannel : runner.channel = result :: channel) (token : ℕ) :
    runner.news token = if result.ofSearch token = true then
        result :: EffectRunner.news { runner with channel } token
      else EffectRunner.news { runner with channel } token := by
  rw [EffectRunner.news, hchannel, List.filter_cons]
  rfl

omit [Sha256] in
theorem news_take_ne_nil {result : EffectResult} {channel : List EffectResult}
    (hchannel : runner.channel = result :: channel) {token : ℕ}
    (h : EffectRunner.news { runner with channel } token ≠ []) : runner.news token ≠ [] := by
  rw [news_take hchannel]
  split_ifs
  · exact List.cons_ne_nil _ _
  · exact h

omit [Sha256] in
/-- An answer is taken that is none of the search that is under way. -/
theorem Searching.take {result : EffectResult} {channel : List EffectResult}
    (h : Searching search runner) (hchannel : runner.channel = result :: channel)
    (hother : search.status = .loading → result.ofSearch search.token = false) :
    Searching search { runner with channel } where
  task_le := h.task_le
  news_le token hsome := h.news_le token (news_take_ne_nil hchannel hsome)
  flow hloading := by
    obtain ⟨stage, hcarried, hflow⟩ := h.flow hloading
    rw [news_take hchannel, hother hloading, if_neg Bool.false_ne_true] at hflow
    refine ⟨stage, ?_, hflow⟩
    cases stage with
    | none => exact hcarried
    | some stage => exact hcarried

omit [Sha256] in
/-- The page that comes next is the one that the search waits for. -/
theorem Searching.takePage {page : SearchPage} {channel : List EffectResult}
    (h : Searching search runner) (hchannel : runner.channel = .searchPage page :: channel) :
    Searching (search.applyPage page).1 { runner with channel } := by
  by_cases hcurrent : page.token ≠ search.token ∨ search.status ≠ .loading
  · rw [SearchState.applyPage, if_pos hcurrent]
    refine h.take hchannel fun hloading => decide_eq_false ?_
    exact hcurrent.resolve_right (not_not.2 hloading)
  · rw [not_or, not_not, not_not] at hcurrent
    obtain ⟨htoken, hloading⟩ := hcurrent
    obtain ⟨stage, hcarried, hflow⟩ := h.flow hloading
    have hof : EffectResult.ofSearch search.token (.searchPage page) = true :=
      decide_eq_true htoken
    rw [news_take hchannel, if_pos hof] at hflow
    obtain ⟨hoffset, hrest⟩ := hflow.page_inv
    rw [applyPage_next htoken hloading hoffset]
    rcases hrest with ⟨hmore, hrest⟩ | ⟨hlast, -, -⟩
    · refine ⟨h.task_le, fun token hsome => h.news_le token (news_take_ne_nil hchannel hsome),
        fun _ => ⟨stage, ?_, hrest⟩⟩
      cases stage with
      | none => exact hcarried
      | some stage => exact hcarried
    · refine h.leave le_rfl ?_ rfl fun token hsome => news_take_ne_nil hchannel hsome
      show (if page.hasMore = true then _ else _) ≠ _
      rw [hlast, if_neg Bool.false_ne_true]
      exact fun heq => by cases heq

/-- An answer keeps the searches in step with the application. -/
theorem Searching.receipt {result : EffectResult} {channel : List EffectResult}
    (hvalid : runner.Valid) (h : Searching c.search runner)
    (hchannel : runner.channel = result :: channel) (hreceipt : Receipt c result effects c') :
    Searching c'.search (EffectRunner.dispatchAll { runner with channel } effects) := by
  have htake (hother : ∀ token, result.ofSearch token = false) :
      Searching c.search { runner with channel } :=
    h.take hchannel fun _ => hother c.search.token
  cases hreceipt with
  | page page => exact h.takePage hchannel
  | searchFailed token message =>
    simp only [SearchState.applyError]
    split_ifs with hcurrent
    · refine h.take hchannel fun hloading => decide_eq_false ?_
      exact hcurrent.resolve_right (not_not.2 hloading)
    · refine h.leave le_rfl ?_ rfl fun token hsome => news_take_ne_nil hchannel hsome
      exact fun heq => by cases heq
  | weather | rejected => exact htake fun _ => rfl
  | adopted _ _ _ hfollows =>
    obtain ⟨hsearches, hsearch⟩ := sameSearches_follows (hvalid.take channel) hfollows
    refine (htake fun _ => rfl).congr hsearches (congrArg _ hsearch) (fun hloading => ?_)
      (congrArg _ hsearch)
    rwa [hsearch] at hloading
  | ignored hignored =>
    cases result with
    | searchPage | searchFailed => cases hignored
    | weather | preview | config | about | taskFailed => exact htake fun _ => rfl

end

end WeatherApp.Tui
