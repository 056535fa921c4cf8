import WeatherApp.Renderer.Pending

/-!
# The protocol of pending requests

Any number of clients register requests, complete them, fail all of them and drop their leases, in
any order, and the replies of a call are sent while others run.

A registration has one sending half, which is in the table, in a running call, or used. `halves`
counts where it is, so that a live lease can neither be forgotten nor answered twice.

## Main definitions

* `PendingInv`: the invariant of all runs.

## Main results

* `pending_protocol`: what holds after every run.
-/

namespace WeatherApp

section Law

variable {s s' : PendingRun} {registration : ℕ} {requestId : String}

/-- The failure that a call of `fail_all` reports. -/
def PendingLabel.failure : PendingLabel → Option ClientFailure
  | failAll failure => some failure
  | _ => none

/-- A reply that a lease with this id can be given: a response with its id, or the terminal
failure. -/
def PendingRun.ReplyFor (s : PendingRun) (requestId : String) : PendingReply → Prop
  | .ok response => response.requestId = requestId
  | .error failure => s.registry.terminal = some failure

/-- The reply was given to the lease: a call is about to send it, it is in the channel, or it was
received. -/
def PendingRun.Given (s : PendingRun) (registration : ℕ) (requestId : String)
    (reply : PendingReply) : Prop :=
  (registration, reply) ∈ s.sending ∨ reply ∈ s.channels registration ∨
    ⟨registration, requestId, reply⟩ ∈ s.received

/-- How many sending halves and replies of a registration there are. -/
def PendingRun.halves (s : PendingRun) (registration : ℕ) : ℕ :=
  (s.registry.entries.total fun other => if other = registration then 1 else 0) +
    (s.sending.countP fun p => p.1 = registration) + (s.channels registration).length +
    s.received.countP fun o => o.registration = registration

/-- Every registration has at most one sending half or reply, and a live lease has one; entries
belong to live leases; replies fit their leases. -/
structure PendingInv (s : PendingRun) : Prop where
  halves_le : ∀ registration, s.halves registration ≤ 1
  live : ∀ registration requestId, s.leases.get registration = some requestId →
    s.halves registration = 1 ∧ registration < s.registrations
  unused : ∀ registration, s.registrations ≤ registration → s.halves registration = 0
  entry : ∀ requestId registration, s.registry.entries.get requestId = some registration →
    s.leases.get registration = some requestId
  sending : ∀ registration reply requestId, (registration, reply) ∈ s.sending →
    s.leases.get registration = some requestId → s.ReplyFor requestId reply
  channel : ∀ registration reply requestId, reply ∈ s.channels registration →
    s.leases.get registration = some requestId → s.ReplyFor requestId reply
  received : ∀ o ∈ s.received, s.ReplyFor o.requestId o.reply
  failed : s.registry.terminal.isSome → s.registry.entries = .empty
  owner : ∀ o ∈ s.received, ∀ requestId, s.leases.get o.registration = some requestId →
    o.requestId = requestId

theorem pendingInv_new : PendingInv .new where
  halves_le _ := Nat.zero_le _
  live _ _ h := nomatch h
  unused _ _ := rfl
  entry _ _ h := nomatch h
  sending _ _ _ h := nomatch h
  channel _ _ _ h := nomatch h
  received _ h := nomatch h
  failed _ := rfl
  owner _ h := nomatch h

/-- A reply that fits a lease still does when the terminal failure is kept. -/
theorem PendingRun.ReplyFor.mono {reply : PendingReply} (h : s.ReplyFor requestId reply)
    (hkept : ∀ failure, s.registry.terminal = some failure →
      s'.registry.terminal = some failure) : s'.ReplyFor requestId reply := by
  cases reply with
  | ok response => exact h
  | error failure => exact hkept failure h

/-! ### Steps -/

theorem PendingInv.register (hinv : PendingInv s) {registry : PendingState}
    (h : s.registry.register requestId s.registrations = .ok registry) :
    PendingInv { s with
      registry
      leases := s.leases.set s.registrations requestId
      registrations := s.registrations + 1 } := by
  rw [PendingState.register] at h
  split at h
  · cases h
  next hterminal =>
    split at h
    · cases h
    next hvacant =>
      cases h
      have hhalves : ∀ number, PendingRun.halves { s with
            registry := { s.registry with
              entries := s.registry.entries.set requestId s.registrations }
            leases := s.leases.set s.registrations requestId
            registrations := s.registrations + 1 } number =
          s.halves number + if s.registrations = number then 1 else 0 := by
        intro number
        have htotal := KeyedMap.total_set_of_get_none
          (fun other => if other = number then 1 else 0) hvacant s.registrations
        simp only [PendingRun.halves, htotal]
        omega
      refine ⟨fun number => ?_, fun number id hget => ?_, fun number hle => ?_,
        fun id number hget => ?_, fun number reply id hmem hget => ?_,
        fun number reply id hmem hget => ?_, hinv.received, fun hfailed => ?_,
        fun o ho id hget => ?_⟩
      · rw [hhalves]
        split_ifs with hnumber
        · rw [hinv.unused number hnumber.le]
        · exact hinv.halves_le number
      · rw [hhalves]
        rw [KeyedMap.get_set] at hget
        split_ifs at hget with hnumber
        · rw [if_pos hnumber.symm, hinv.unused number hnumber.ge, hnumber]
          exact ⟨rfl, Nat.lt_succ_self _⟩
        · obtain ⟨hone, hlt⟩ := hinv.live number id hget
          rw [if_neg (Ne.symm hnumber)]
          exact ⟨hone, hlt.trans (Nat.lt_succ_self _)⟩
      · rw [hhalves, hinv.unused number (Nat.le_of_succ_le hle), if_neg]
        exact (Nat.lt_of_succ_le hle).ne
      · rw [KeyedMap.get_set] at hget
        split_ifs at hget with hid
        · cases hget
          rw [KeyedMap.get_set_self, hid]
        · have hlease := hinv.entry id number hget
          rw [KeyedMap.get_set_of_ne (hinv.live number id hlease).2.ne]
          exact hlease
      · rw [KeyedMap.get_set] at hget
        split_ifs at hget with hnumber
        · -- nothing was sent to a registration that is new
          have hzero := hinv.unused number hnumber.ge
          have hpos : 0 < s.sending.countP fun p => p.1 = number :=
            List.countP_pos_iff.2 ⟨_, hmem, decide_eq_true rfl⟩
          rw [PendingRun.halves] at hzero
          omega
        · exact hinv.sending number reply id hmem hget
      · rw [KeyedMap.get_set] at hget
        split_ifs at hget with hnumber
        · have hzero := hinv.unused number hnumber.ge
          have hpos := List.length_pos_of_mem hmem
          rw [PendingRun.halves] at hzero
          dsimp only at hpos
          omega
        · exact hinv.channel number reply id hmem hget
      · rw [hterminal] at hfailed
        cases hfailed
      · rw [KeyedMap.get_set] at hget
        split_ifs at hget with hnumber
        · have hzero := hinv.unused o.registration hnumber.ge
          have hpos : 0 < s.received.countP fun other => other.registration = o.registration :=
            List.countP_pos_iff.2 ⟨o, ho, decide_eq_true rfl⟩
          rw [PendingRun.halves] at hzero
          omega
        · exact hinv.owner o ho id hget

theorem PendingInv.complete (hinv : PendingInv s) (response : RpcResponse) :
    PendingInv { s with
      registry := (s.registry.complete response).2
      sending := s.sending ++ (s.registry.complete response).1.toList.map fun registration =>
        (registration, .ok response) } := by
  cases hentry : s.registry.entries.get response.requestId with
  | none =>
    simp only [PendingState.complete, hentry, KeyedMap.remove_of_get_none hentry,
      Option.toList_none, List.map_nil, List.append_nil]
    exact hinv
  | some owner =>
    simp only [PendingState.complete, hentry, Option.toList_some, List.map_cons, List.map_nil]
    have hlease := hinv.entry _ _ hentry
    -- the half moves from the table to the call
    have hhalves : ∀ number, PendingRun.halves { s with
          registry := { s.registry with
            entries := s.registry.entries.remove response.requestId }
          sending := s.sending ++ [(owner, .ok response)] } number = s.halves number := by
      intro number
      have htotal := KeyedMap.total_remove (fun other => if other = number then 1 else 0) hentry
      simp only [PendingRun.halves, List.countP_append, List.countP_singleton,
        decide_eq_true_eq]
      omega
    refine ⟨fun number => ?_, fun number id hget => ?_, fun number hle => ?_,
      fun id number hget => hinv.entry id number (KeyedMap.get_of_get_remove hget),
      fun number reply id hmem hget => ?_, hinv.channel, hinv.received, fun hfailed => ?_, hinv.owner⟩
    · rw [hhalves]
      exact hinv.halves_le number
    · rw [hhalves]
      exact hinv.live number id hget
    · rw [hhalves]
      exact hinv.unused number hle
    · rcases List.mem_append.1 hmem with hmem | hmem
      · exact hinv.sending number reply id hmem hget
      · cases List.mem_singleton.1 hmem
        rw [hlease, Option.some.injEq] at hget
        exact hget
    · rw [hinv.failed hfailed] at hentry
      cases hentry

theorem PendingInv.failAll (hinv : PendingInv s) (failure : ClientFailure) :
    PendingInv { s with
      registry := (s.registry.failAll failure).2
      sending := s.sending ++ ((s.registry.failAll failure).1.getD []).map fun registration =>
        (registration, .error failure) } := by
  cases hterminal : s.registry.terminal with
  | some first =>
    simp only [PendingState.failAll, hterminal, Option.isSome_some, if_true, Option.getD_none,
      List.map_nil, List.append_nil]
    exact hinv
  | none =>
    simp only [PendingState.failAll, hterminal, Option.isSome_none, Bool.false_eq_true, if_false,
      Option.getD_some]
    -- all halves move from the table to the call
    have hhalves : ∀ number, PendingRun.halves { s with
          registry := ⟨.empty, some failure⟩
          sending := s.sending ++
            s.registry.entries.values.map fun owner => (owner, .error failure) } number =
        s.halves number := by
      intro number
      have htotal := KeyedMap.total_ite_eq_countP (fun other => other = number)
        s.registry.entries
      have hempty : KeyedMap.total (fun other : ℕ => if other = number then 1 else 0)
          (.empty : KeyedMap String ℕ) = 0 := KeyedMap.total_empty _
      simp only [PendingRun.halves, List.countP_append, List.countP_map, Function.comp_def,
        htotal, hempty]
      omega
    have hkept : ∀ {id reply}, s.ReplyFor id reply → PendingRun.ReplyFor { s with
          registry := ⟨.empty, some failure⟩
          sending := s.sending ++
            s.registry.entries.values.map fun owner => (owner, .error failure) } id reply := by
      intro id reply hreply
      refine hreply.mono fun other hother => ?_
      rw [hterminal] at hother
      cases hother
    refine ⟨fun number => ?_, fun number id hget => ?_, fun number hle => ?_,
      fun id number hget => (nomatch hget), fun number reply id hmem hget => ?_,
      fun number reply id hmem hget => hkept (hinv.channel number reply id hmem hget),
      fun o ho => hkept (hinv.received o ho), fun _ => rfl, hinv.owner⟩
    · rw [hhalves]
      exact hinv.halves_le number
    · rw [hhalves]
      exact hinv.live number id hget
    · rw [hhalves]
      exact hinv.unused number hle
    · rcases List.mem_append.1 hmem with hmem | hmem
      · exact hkept (hinv.sending number reply id hmem hget)
      · obtain ⟨owner, -, heq⟩ := List.mem_map.1 hmem
        cases heq
        rfl

theorem PendingInv.send (hinv : PendingInv s) {reply : PendingReply}
    (hmem : (registration, reply) ∈ s.sending) :
    PendingInv { s with
      sending := s.sending.erase (registration, reply)
      channels :=
        if (s.leases.get registration).isSome then
          Function.update s.channels registration (s.channels registration ++ [reply])
        else s.channels } := by
  have herase : ∀ number, (s.sending.erase (registration, reply)).countP (fun p => p.1 = number) +
      (if registration = number then 1 else 0) = s.sending.countP fun p => p.1 = number := by
    intro number
    have hperm := (List.perm_cons_erase hmem).countP_eq fun p => decide (p.1 = number)
    rw [List.countP_cons] at hperm
    simp only [decide_eq_true_eq] at hperm
    exact hperm.symm
  cases hlease : s.leases.get registration with
  | none =>
    simp only [Option.isSome_none, Bool.false_eq_true, if_false]
    have hhalves : ∀ number, PendingRun.halves { s with
          sending := s.sending.erase (registration, reply) } number +
        (if registration = number then 1 else 0) = s.halves number := by
      intro number
      have hcount := herase number
      simp only [PendingRun.halves]
      omega
    refine ⟨fun number => ?_, fun number id hget => ?_, fun number hle => ?_, hinv.entry,
      fun number other id hother => hinv.sending number other id (List.mem_of_mem_erase hother),
      hinv.channel, hinv.received, hinv.failed, hinv.owner⟩
    · exact (Nat.le_add_right _ _).trans ((hhalves number).trans_le (hinv.halves_le number))
    · have hne : registration ≠ number := by
        rintro rfl
        rw [hlease] at hget
        cases hget
      have hcount := hhalves number
      rw [if_neg hne, Nat.add_zero] at hcount
      rw [hcount]
      exact hinv.live number id hget
    · exact Nat.eq_zero_of_le_zero
        ((Nat.le_add_right _ _).trans ((hhalves number).trans_le (hinv.unused number hle).le))
  | some owner =>
    simp only [Option.isSome_some, if_true]
    -- the half moves from the call to the channel
    have hhalves : ∀ number, PendingRun.halves { s with
          sending := s.sending.erase (registration, reply)
          channels := Function.update s.channels registration
            (s.channels registration ++ [reply]) } number = s.halves number := by
      intro number
      have hcount := herase number
      simp only [PendingRun.halves]
      by_cases hnumber : number = registration
      · subst hnumber
        rw [if_pos rfl] at hcount
        rw [Function.update_self, List.length_append, List.length_singleton]
        omega
      · rw [if_neg (Ne.symm hnumber)] at hcount
        rw [Function.update_of_ne hnumber]
        omega
    refine ⟨fun number => ?_, fun number id hget => ?_, fun number hle => ?_, hinv.entry,
      fun number other id hother => hinv.sending number other id (List.mem_of_mem_erase hother),
      fun number other id hother hget => ?_, hinv.received, hinv.failed, hinv.owner⟩
    · rw [hhalves]
      exact hinv.halves_le number
    · rw [hhalves]
      exact hinv.live number id hget
    · rw [hhalves]
      exact hinv.unused number hle
    · by_cases hnumber : number = registration
      · subst hnumber
        simp only [Function.update_self] at hother
        rcases List.mem_append.1 hother with hother | hother
        · exact hinv.channel number other id hother hget
        · rw [List.mem_singleton.1 hother]
          exact hinv.sending number reply id hmem hget
      · simp only [Function.update_of_ne hnumber] at hother
        exact hinv.channel number other id hother hget

theorem PendingInv.receive (hinv : PendingInv s) (hlease : s.leases.get registration = some requestId)
    {reply : PendingReply} {rest : List PendingReply}
    (hchannel : s.channels registration = reply :: rest) :
    PendingInv { s with
      channels := Function.update s.channels registration rest
      received := s.received ++ [⟨registration, requestId, reply⟩] } := by
  have hhalves : ∀ number, PendingRun.halves { s with
        channels := Function.update s.channels registration rest
        received := s.received ++ [⟨registration, requestId, reply⟩] } number =
      s.halves number := by
    intro number
    simp only [PendingRun.halves, List.countP_append, List.countP_singleton, decide_eq_true_eq]
    by_cases hnumber : number = registration
    · subst hnumber
      rw [Function.update_self, if_pos rfl, hchannel, List.length_cons]
      omega
    · rw [Function.update_of_ne hnumber, if_neg (Ne.symm hnumber), Nat.add_zero]
  refine ⟨fun number => ?_, fun number id hget => ?_, fun number hle => ?_, hinv.entry,
    hinv.sending, fun number other id hother hget => ?_, fun o ho => ?_, hinv.failed,
    fun o ho id hget => ?_⟩
  · rw [hhalves]
    exact hinv.halves_le number
  · rw [hhalves]
    exact hinv.live number id hget
  · rw [hhalves]
    exact hinv.unused number hle
  · by_cases hnumber : number = registration
    · subst hnumber
      simp only [Function.update_self] at hother
      exact hinv.channel number other id (hchannel ▸ List.mem_cons_of_mem _ hother) hget
    · simp only [Function.update_of_ne hnumber] at hother
      exact hinv.channel number other id hother hget
  · rcases List.mem_append.1 ho with ho | ho
    · exact hinv.received o ho
    · rw [List.mem_singleton.1 ho]
      exact hinv.channel registration reply requestId (hchannel ▸ List.mem_cons_self) hlease
  · rcases List.mem_append.1 ho with ho | ho
    · exact hinv.owner o ho id hget
    · rw [List.mem_singleton.1 ho] at hget ⊢
      exact Option.some.inj (hlease.symm.trans hget)

/-- The sender of a live lease is not dropped before it has sent. -/
theorem PendingInv.senderAlive (hinv : PendingInv s)
    (hlease : s.leases.get registration = some requestId)
    (hchannel : s.channels registration = []) :
    (s.senderAlive registration || s.received.any fun o => o.registration = registration) =
      true := by
  by_contra hdropped
  simp only [PendingRun.senderAlive, Bool.or_eq_true, not_or, List.any_eq_true,
    List.contains_eq_mem, decide_eq_true_eq, not_exists, not_and] at hdropped
  obtain ⟨⟨hentries, hsending⟩, hreceived⟩ := hdropped
  have hone := (hinv.live registration requestId hlease).1
  have htotal := KeyedMap.total_ite_eq_countP (fun other => other = registration)
    s.registry.entries
  have hzero : s.registry.entries.values.countP (fun other => other = registration) = 0 :=
    List.countP_eq_zero.2 fun other hother h => hentries (of_decide_eq_true h ▸ hother)
  have hnone : (s.sending.countP fun p => p.1 = registration) = 0 :=
    List.countP_eq_zero.2 fun p hp h => hsending p hp (of_decide_eq_true h)
  have hnever : (s.received.countP fun o => o.registration = registration) = 0 :=
    List.countP_eq_zero.2 fun o ho h => hreceived o ho (of_decide_eq_true h)
  rw [PendingRun.halves, htotal, hzero, hnone, hnever, hchannel] at hone
  cases hone

/-- `remove_if_matches` takes the entry of its own registration only. -/
theorem get_removeIfMatches {registry : PendingState} {requestId id : String}
    {registration owner : ℕ} (h : registry.entries.get id = some owner)
    (hne : owner ≠ registration) :
    (registry.removeIfMatches requestId registration).entries.get id = some owner := by
  rw [PendingState.removeIfMatches]
  split_ifs with hmatches
  · have hid : id ≠ requestId := by
      rintro rfl
      rw [h, Option.some.injEq] at hmatches
      exact hne hmatches
    rw [KeyedMap.get_remove, if_neg hid, h]
  · exact h

theorem PendingInv.drop (hinv : PendingInv s)
    (hlease : s.leases.get registration = some requestId) :
    PendingInv { s with
      registry := s.registry.removeIfMatches requestId registration
      leases := s.leases.remove registration } := by
  have hterminal : (s.registry.removeIfMatches requestId registration).terminal =
      s.registry.terminal := by
    rw [PendingState.removeIfMatches]
    split_ifs <;> rfl
  have hentries : ∀ {id owner}, (s.registry.removeIfMatches requestId registration).entries.get id =
      some owner → owner ≠ registration ∧ s.registry.entries.get id = some owner := by
    intro id owner h
    rw [PendingState.removeIfMatches] at h
    split_ifs at h with hmatches
    · have hold := KeyedMap.get_of_get_remove h
      refine ⟨?_, hold⟩
      rintro rfl
      have hid := hinv.entry id owner hold
      rw [hlease, Option.some.injEq] at hid
      rw [KeyedMap.get_remove, if_pos hid.symm] at h
      cases h
    · refine ⟨?_, h⟩
      rintro rfl
      have hid := hinv.entry id owner h
      rw [hlease, Option.some.injEq] at hid
      exact hmatches (hid ▸ h)
  have hhalves : ∀ number, PendingRun.halves { s with
        registry := s.registry.removeIfMatches requestId registration
        leases := s.leases.remove registration } number ≤ s.halves number ∧
      (number ≠ registration → PendingRun.halves { s with
        registry := s.registry.removeIfMatches requestId registration
        leases := s.leases.remove registration } number = s.halves number) := by
    intro number
    simp only [PendingRun.halves]
    by_cases hmatches : s.registry.entries.get requestId = some registration
    · have htotal := KeyedMap.total_remove
        (fun other => if other = number then 1 else 0) hmatches
      simp only [PendingState.removeIfMatches, if_pos hmatches]
      refine ⟨by omega, fun hne => ?_⟩
      rw [if_neg hne.symm] at htotal
      omega
    · simp only [PendingState.removeIfMatches, if_neg hmatches]
      exact ⟨le_rfl, fun _ => trivial⟩
  refine ⟨fun number => (hhalves number).1.trans (hinv.halves_le number), fun number id hget => ?_,
    fun number hle => Nat.eq_zero_of_le_zero ((hhalves number).1.trans (hinv.unused number hle).le),
    fun id owner hget => ?_, fun number reply id hmem hget => ?_,
    fun number reply id hmem hget => ?_, fun o ho => ?_, fun hfailed => ?_,
    fun o ho id hget => hinv.owner o ho id (KeyedMap.get_of_get_remove hget)⟩
  · have hold := KeyedMap.get_of_get_remove hget
    have hne : number ≠ registration := by
      rintro rfl
      rw [KeyedMap.get_remove, if_pos rfl] at hget
      cases hget
    rw [(hhalves number).2 hne]
    exact hinv.live number id hold
  · obtain ⟨hne, hold⟩ := hentries hget
    rw [KeyedMap.get_remove, if_neg hne]
    exact hinv.entry id owner hold
  · exact (hinv.sending number reply id hmem (KeyedMap.get_of_get_remove hget)).mono
      fun failure h => hterminal.trans h
  · exact (hinv.channel number reply id hmem (KeyedMap.get_of_get_remove hget)).mono
      fun failure h => hterminal.trans h
  · exact (hinv.received o ho).mono fun failure h => hterminal.trans h
  · rw [hterminal] at hfailed
    have hempty := hinv.failed hfailed
    rw [PendingState.removeIfMatches, hempty, if_neg (fun h => by cases h), hempty]

theorem pendingInv_step (hinv : PendingInv s) {l : PendingLabel} (h : s.step l = some s') :
    PendingInv s' := by
  cases l with
  | register requestId =>
    simp only [PendingRun.step] at h
    split at h
    next registry hregister =>
      cases h
      exact hinv.register hregister
    next =>
      cases h
      exact hinv
  | complete response =>
    cases h
    exact hinv.complete response
  | failAll failure =>
    cases h
    exact hinv.failAll failure
  | send registration reply =>
    simp only [PendingRun.step, Option.ite_none_right_eq_some, Option.some.injEq] at h
    obtain ⟨hmem, rfl⟩ := h
    exact hinv.send hmem
  | receive registration =>
    simp only [PendingRun.step] at h
    split at h
    next requestId reply rest hlease hchannel =>
      cases h
      exact hinv.receive hlease hchannel
    next requestId hlease hchannel =>
      rw [if_pos (hinv.senderAlive hlease hchannel)] at h
      cases h
    next => cases h
  | drop registration =>
    simp only [PendingRun.step] at h
    split at h
    next requestId hlease =>
      cases h
      exact hinv.drop hlease
    next => cases h

theorem pendingInv_reachable (h : pendingSystem.Reachable s) : PendingInv s :=
  h.invariant (P := PendingInv) (by rintro _ rfl; exact pendingInv_new)
    fun _ _ _ hinv hstep => pendingInv_step hinv hstep

/-! ### The terminal failure -/

/-- A step keeps the terminal failure, or sets it to the one it reports. -/
theorem terminal_step {l : PendingLabel} (h : s.step l = some s') :
    s'.registry.terminal = s.registry.terminal.or l.failure := by
  cases l with
  | register requestId =>
    simp only [PendingRun.step] at h
    split at h
    next registry hregister =>
      cases h
      rw [PendingState.register] at hregister
      split at hregister
      · cases hregister
      · split at hregister
        · cases hregister
        · cases hregister
          exact (Option.or_none).symm
    next =>
      cases h
      exact (Option.or_none).symm
  | complete response =>
    cases h
    exact (Option.or_none).symm
  | failAll failure =>
    cases h
    cases hterminal : s.registry.terminal with
    | some first => simp [PendingState.failAll, hterminal]
    | none => simp [PendingState.failAll, hterminal, PendingLabel.failure]
  | send registration reply =>
    simp only [PendingRun.step, Option.ite_none_right_eq_some, Option.some.injEq] at h
    obtain ⟨-, rfl⟩ := h
    exact (Option.or_none).symm
  | receive registration =>
    simp only [PendingRun.step] at h
    split at h
    · cases h
      exact (Option.or_none).symm
    · split_ifs at h
      cases h
      exact (Option.or_none).symm
    · cases h
  | drop registration =>
    simp only [PendingRun.step] at h
    split at h
    · cases h
      simp only [PendingState.removeIfMatches]
      split_ifs <;> exact (Option.or_none).symm
    · cases h

/-- The terminal failure is the first one that was reported. -/
theorem terminal_run {trace : List PendingLabel} (h : pendingSystem.Run trace s) :
    s.registry.terminal = (trace.filterMap PendingLabel.failure).head? := by
  refine h.traceInvariant (P := fun trace s =>
    s.registry.terminal = (trace.filterMap PendingLabel.failure).head?) ?_ ?_
  · rintro s rfl
    rfl
  · intro trace s l s' hfirst hstep
    rw [terminal_step hstep, hfirst, List.filterMap_append, List.head?_append]
    cases hl : l.failure <;> simp [hl]

/-! ## The protocol -/

/-- What holds after a run. -/
structure PendingProtocol (trace : List PendingLabel) (s : PendingRun) : Prop where
  /-- A lease receives at most one outcome. -/
  oneOutcome : ∀ registration,
    (s.received.filter fun o => o.registration = registration).length ≤ 1
  /-- An outcome is a response with the request id of the lease, or the terminal failure. -/
  ownReply : ∀ o ∈ s.received, s.ReplyFor o.requestId o.reply
  /-- The registry stays failed with the first terminal failure. -/
  firstFailure : s.registry.terminal = (trace.filterMap PendingLabel.failure).head?
  /-- A failed registry holds no entries and refuses every registration with its failure. -/
  failed : ∀ failure, s.registry.terminal = some failure → s.registry.entries = .empty ∧
    ∀ requestId registration,
      s.registry.register requestId registration = .error (.terminal failure)
  /-- Dropping a lease keeps the entries of all other registrations. -/
  dropKeeps : ∀ registration s', s.step (.drop registration) = some s' → ∀ requestId other,
    s.registry.entries.get requestId = some other → other ≠ registration →
      s'.registry.entries.get requestId = some other
  /-- A live lease has its entry, or was given a reply that fits it. -/
  noLostWaiter : ∀ registration requestId, s.leases.get registration = some requestId →
    s.registry.entries.get requestId = some registration ∨
      ∃ reply, s.ReplyFor requestId reply ∧ s.Given registration requestId reply
  /-- While no call has replies to send, a live lease has its entry, or its reply is in its
  channel or received. -/
  delivered : s.sending = [] → ∀ registration requestId,
    s.leases.get registration = some requestId →
      s.registry.entries.get requestId = some registration ∨
        ∃ reply, s.ReplyFor requestId reply ∧ (reply ∈ s.channels registration ∨
          ⟨registration, requestId, reply⟩ ∈ s.received)

theorem PendingInv.noLostWaiter (hinv : PendingInv s)
    (hlease : s.leases.get registration = some requestId) :
    s.registry.entries.get requestId = some registration ∨
      ∃ reply, s.ReplyFor requestId reply ∧ s.Given registration requestId reply := by
  by_cases hentry : ∃ id, s.registry.entries.get id = some registration
  · obtain ⟨id, hid⟩ := hentry
    have hsame := hinv.entry id registration hid
    rw [hlease, Option.some.injEq] at hsame
    exact .inl (hsame ▸ hid)
  -- its half is not in the table, so it is in one of the other places
  have hzero : (s.registry.entries.total fun other => if other = registration then 1 else 0) = 0 :=
    KeyedMap.total_eq_zero fun id other hget => if_neg fun h : other = registration =>
      hentry ⟨id, h ▸ hget⟩
  have hone := (hinv.live registration requestId hlease).1
  rw [PendingRun.halves, hzero] at hone
  right
  by_cases hsending : 0 < s.sending.countP fun p => p.1 = registration
  · obtain ⟨⟨number, reply⟩, hmem, hnumber⟩ := List.countP_pos_iff.1 hsending
    cases of_decide_eq_true hnumber
    exact ⟨reply, hinv.sending _ reply requestId hmem hlease, .inl hmem⟩
  by_cases hchannel : 0 < (s.channels registration).length
  · obtain ⟨reply, hmem⟩ := List.exists_mem_of_length_pos hchannel
    exact ⟨reply, hinv.channel registration reply requestId hmem hlease, .inr (.inl hmem)⟩
  have hreceived : 0 < s.received.countP fun o => o.registration = registration := by omega
  obtain ⟨⟨number, id, reply⟩, hmem, hnumber⟩ := List.countP_pos_iff.1 hreceived
  cases of_decide_eq_true hnumber
  have hid : id = requestId := hinv.owner _ hmem requestId hlease
  subst hid
  exact ⟨reply, hinv.received _ hmem, .inr (.inr hmem)⟩

/-- After every run of any number of clients, each lease has at most one outcome, which is its own,
failures are final, and no live lease is forgotten. -/
theorem pending_protocol {trace : List PendingLabel} (h : pendingSystem.Run trace s) :
    PendingProtocol trace s := by
  have hinv := pendingInv_reachable ⟨trace, h⟩
  refine ⟨fun registration => ?_, hinv.received, terminal_run h, fun failure hfailure => ⟨?_, ?_⟩,
    ?_, fun registration requestId hlease => hinv.noLostWaiter hlease, ?_⟩
  · have hle := hinv.halves_le registration
    rw [PendingRun.halves, List.countP_eq_length_filter (l := s.received)] at hle
    omega
  · exact hinv.failed (hfailure ▸ rfl)
  · intro requestId registration
    rw [PendingState.register, hfailure]
  · intro registration s' hstep requestId other hentry hne
    simp only [PendingRun.step] at hstep
    split at hstep
    next =>
      cases hstep
      exact get_removeIfMatches hentry hne
    next => cases hstep
  · intro hidle registration requestId hlease
    rcases hinv.noLostWaiter hlease with hentry | ⟨reply, hreply, hsending | hgiven⟩
    · exact .inl hentry
    · rw [hidle] at hsending
      cases hsending
    · exact .inr ⟨reply, hreply, hgiven⟩

end Law

/-- An id is used again after the lease that had it was dropped while its reply was on the way; then
the connection fails. -/
theorem pending_protocol_sampleRun :
    ∃ trace s, pendingSystem.Run trace s ∧
      s.received.map (fun o => (o.registration, o.reply)) =
        [(1, .error (.rpcReceive "connection lost"))] ∧ PendingProtocol trace s := by
  have hrun : (LabelledSystem.perform PendingRun.step (fun _ _ => true) .new
      [.register "a", .complete ⟨"a", 1, [], none⟩, .drop 0, .register "a",
        .send 0 (.ok ⟨"a", 1, [], none⟩), .failAll (.rpcReceive "connection lost"),
        .failAll .closed, .send 1 (.error (.rpcReceive "connection lost")), .receive 1]).map
      (fun s => s.received.map fun o => (o.registration, o.reply)) =
      some [(1, .error (.rpcReceive "connection lost"))] := by
    decide +kernel
  obtain ⟨s, hperform, hend⟩ := Option.map_eq_some_iff.1 hrun
  have hreached := LabelledSystem.Run.perform (S := pendingSystem) (fun _ _ _ h => h)
    (.start rfl) hperform
  exact ⟨_, s, hreached, hend, pending_protocol hreached⟩

end WeatherApp
