import SmartGroup.Group.Effects

/-! The loop of a tick over the pending ids. -/
namespace SmartGroup
open Bytes Sweep Objects

namespace SGSId

/-- The tick ends the transmission behind a pending id. -/
def Stops (tx : SGSId) (ms : Nat) : Prop := ¬tx.ended ∧ (tx.clock ms).hasExpired

/-- With it the tick completes an unsubscription. -/
def LogsOff (tx : SGSId) (ms : Nat) : Prop := tx.Stops ms ∧ ¬tx.login ∧ tx.logoff

instance (tx : SGSId) (ms : Nat) : Decidable (tx.Stops ms) := inferInstanceAs (Decidable (_ ∧ _))
instance (tx : SGSId) (ms : Nat) : Decidable (tx.LogsOff ms) := inferInstanceAs (Decidable (_ ∧ _))

/-- What the tick leaves of a pending id. -/
def after (ms : Nat) (tx : SGSId) : Option SGSId :=
  if ¬(tx.clock ms).hasExpired then some (tx.clock ms)
  else if tx.ended then none
  else if tx.login ∨ tx.logoff then some (tx.clock ms).reset.setEnd
  else none

theorem after_user {tx tx' : SGSId} {ms : Nat} (left : tx.after ms = some tx') :
    tx'.user = tx.user := by
  unfold after at left
  split at left
  · cases left
    rfl
  · split at left
    · cases left
    · split at left
      · cases left
        rfl
      · cases left

end SGSId

/-- What the tick leaves of an entry of `m_ids`. -/
def idAfter (ms : Nat) : Option SGSId → Option (Option SGSId)
  | none => some none
  | some tx => (tx.after ms).map some

namespace GroupHandler

theorem sendAck_silent (env : Env) (g : GroupHandler) (i : Nat) (irc : IRCDDB) (user text : Str)
    (draw : Nat) : ∀ o ∈ g.sendAck env i irc user text draw, o.relayed = none ∧ o.lost = none := by
  intro o member
  simp only [sendAck, List.mem_cons, List.mem_map] at member
  rcases member with rfl | rfl | ⟨frame, -, rfl⟩ <;> exact ⟨rfl, rfl⟩

theorem acknowledge_silent (env : Env) (g : GroupHandler) (tx : SGSId) (c : Str) (draw : Nat) :
    ∀ o ∈ g.acknowledge env tx c draw, o.relayed = none ∧ o.lost = none := by
  intro o member
  unfold acknowledge at member
  split at member
  · rw [List.mem_singleton.mp member]
    exact ⟨rfl, rfl⟩
  · split at member
    · exact sendAck_silent env g _ _ _ _ _ o member
    · split at member
      · exact sendAck_silent env g _ _ _ _ _ o member
      · cases member

/-- The ways through one turn of the loop. -/
inductive ClockIdCase (ms : Nat) (g : GroupHandler) (k : Nat) : Option SGSId → GroupHandler → Prop
  | null : ClockIdCase ms g k none g
  | waiting (tx : SGSId) (waits : ¬(tx.clock ms).hasExpired) :
      ClockIdCase ms g k (some tx) { g with ids := g.ids.insert k (some (tx.clock ms)) }
  | acknowledged (tx : SGSId) (expired : (tx.clock ms).hasExpired) (ended : tx.ended) :
      ClockIdCase ms g k (some tx) { g with ids := g.ids.erase k }
  | login (tx : SGSId) (stops : tx.Stops ms) (login : tx.login) :
      ClockIdCase ms g k (some tx) { g.closeStream tx.id with
        ids := (g.closeStream tx.id).ids.insert k (some (tx.clock ms).reset.setEnd) }
  | logoff (tx : SGSId) (user : SGSUser) (logs_off : tx.LogsOff ms)
      (held : g.users.heap.cell tx.user = some user) :
      ClockIdCase ms g k (some tx) { g.closeStream tx.id with
        users := (g.closeStream tx.id).users.erase user.callsign
        ids := (g.closeStream tx.id).ids.insert k (some (tx.clock ms).reset.setEnd) }
  | relay (tx : SGSId) (stops : tx.Stops ms) (stays : ¬tx.login ∧ ¬tx.logoff) :
      ClockIdCase ms g k (some tx) { g.closeStream tx.id with
        ids := (g.closeStream tx.id).ids.erase k }

theorem clockId_case {env : Env} {ms : Nat} {g g' : GroupHandler} {k : Nat} {held : Option SGSId}
    {outs : List Output} (h : g.clockId env ms (k, held) = .ok (g', outs)) :
    ClockIdCase ms g k held g' ∧ ∀ o ∈ outs, o.relayed = none ∧ o.lost = none := by
  cases held with
  | none =>
      simp only [clockId, Except.ok.injEq, Prod.mk.injEq] at h
      obtain ⟨rfl, rfl⟩ := h
      exact ⟨.null, by simp⟩
  | some tx =>
      unfold clockId at h
      dsimp only at h
      split at h
      · rename_i waits
        simp only [Except.ok.injEq, Prod.mk.injEq] at h
        obtain ⟨rfl, rfl⟩ := h
        exact ⟨.waiting tx waits, by simp⟩
      · rename_i expired
        rw [not_not] at expired
        split at h
        · cases h
        · rename_i user owner
          split at h
          · rename_i ended
            simp only [Except.ok.injEq, Prod.mk.injEq] at h
            obtain ⟨rfl, rfl⟩ := h
            exact ⟨.acknowledged tx expired ended, acknowledge_silent env g _ _ _⟩
          · rename_i going
            have stops : tx.Stops ms := ⟨going, expired⟩
            split at h
            · rename_i login
              simp only [Except.ok.injEq, Prod.mk.injEq] at h
              obtain ⟨rfl, rfl⟩ := h
              exact ⟨.login tx stops login, by simp⟩
            · rename_i stays
              split at h
              · rename_i logoff
                simp only [Except.ok.injEq, Prod.mk.injEq] at h
                obtain ⟨rfl, rfl⟩ := h
                exact ⟨.logoff tx user ⟨stops, stays, logoff⟩ owner, by simp⟩
              · rename_i relay
                simp only [Except.ok.injEq, Prod.mk.injEq] at h
                obtain ⟨rfl, rfl⟩ := h
                exact ⟨.relay tx stops ⟨stays, relay⟩, by simp⟩

/-- The pending ids among the entries that complete an unsubscription of the user. -/
def LogsOffIn (ms : Nat) (t : Users) (done : List (Nat × Option SGSId)) (c : Str) : Prop :=
  ∃ k tx u, (k, some tx) ∈ done ∧ tx.LogsOff ms ∧ t.heap.cell tx.user = some u ∧ u.callsign = c

/-- The pending ids among the entries that end the stream. -/
def StopsIn (ms id : Nat) (done : List (Nat × Option SGSId)) : Prop :=
  ∃ k tx, (k, some tx) ∈ done ∧ tx.Stops ms ∧ tx.id = id

theorem ClockIdCase.ids {ms : Nat} {g g' : GroupHandler} {k : Nat} {held : Option SGSId}
    (case : ClockIdCase ms g k held g') (present : g.ids[k]? = some held) (k' : Nat) :
    g'.ids[k']? = if k = k' then idAfter ms held else g.ids[k']? := by
  cases case with
  | null =>
      split
      · rename_i same
        rw [← same, present]
        rfl
      · rfl
  | waiting tx waits =>
      have left : idAfter ms (some tx) = some (some (tx.clock ms)) := by
        simp [idAfter, SGSId.after, waits]
      rw [left, get_insert]
  | acknowledged tx expired ended =>
      have left : idAfter ms (some tx) = none := by simp [idAfter, SGSId.after, expired, ended]
      rw [left, get_erase]
  | login tx stops login =>
      have left : idAfter ms (some tx) = some (some (tx.clock ms).reset.setEnd) := by
        simp [idAfter, SGSId.after, stops.1, stops.2, login]
      rw [left, closeStream_ids, get_insert]
  | logoff tx user logs_off held =>
      have left : idAfter ms (some tx) = some (some (tx.clock ms).reset.setEnd) := by
        simp [idAfter, SGSId.after, logs_off.1.1, logs_off.1.2, logs_off.2.2]
      rw [left, closeStream_ids, get_insert]
  | relay tx stops stays =>
      have left : idAfter ms (some tx) = none := by
        simp [idAfter, SGSId.after, stops.1, stops.2, stays.1, stays.2]
      rw [left, closeStream_ids, get_erase]

theorem ClockIdCase.users {ms : Nat} {g g' : GroupHandler} {k : Nat} {held : Option SGSId}
    (case : ClockIdCase ms g k held g') :
    g'.users.heap = g.users.heap ∧ ∀ c r, g'.users.find c = some r ↔
      g.users.find c = some r ∧ ¬LogsOffIn ms g.users [(k, held)] c := by
  have same (stays : ∀ tx, held = some tx → ¬tx.LogsOff ms) (c : Str) :
      ¬LogsOffIn ms g.users [(k, held)] c := by
    rintro ⟨k', tx, u, member, logs_off, -⟩
    exact stays tx (Prod.mk.inj (List.mem_singleton.mp member)).2.symm logs_off
  cases case with
  | null => exact ⟨rfl, fun c r => by simp [same (by simp) c]⟩
  | waiting tx waits =>
      exact ⟨rfl, fun c r => by simp [same (by rintro _ ⟨⟩ off; exact waits off.1.2) c]⟩
  | acknowledged tx expired ended =>
      exact ⟨rfl, fun c r => by simp [same (by rintro _ ⟨⟩ off; exact off.1.1 ended) c]⟩
  | login tx stops login =>
      exact ⟨by simp, fun c r => by simp [same (by rintro _ ⟨⟩ off; exact off.2.1 login) c]⟩
  | relay tx stops stays =>
      exact ⟨by simp, fun c r => by simp [same (by rintro _ ⟨⟩ off; exact stays.2 off.2.2) c]⟩
  | logoff tx user logs_off held =>
      refine ⟨by simp [Users.erase], fun c r => ?_⟩
      simp only [closeStream_users, Users.find_erase]
      have leaves : LogsOffIn ms g.users [(k, some tx)] c ↔ user.callsign = c := by
        constructor
        · rintro ⟨k', tx', u, member, -, held', named⟩
          have same : tx' = tx := by simpa using (Prod.mk.inj (List.mem_singleton.mp member)).2
          subst same
          rw [held] at held'
          cases held'
          exact named
        · exact fun named => ⟨k, tx, user, by simp, logs_off, held, named⟩
      rw [leaves]
      split
      · rename_i named
        simp [named]
      · rename_i other
        simp [other]

theorem ClockIdCase.stream {ms : Nat} {g g' : GroupHandler} {k : Nat} {held : Option SGSId}
    (case : ClockIdCase ms g k held g') :
    (g'.id = g.id ∧ g'.repeaters = g.repeaters ∧ ¬StopsIn ms g.id [(k, held)]) ∨
      (g'.id = 0 ∧ g'.repeaters = ∅ ∧ StopsIn ms g.id [(k, held)]) := by
  have goes (stays : ∀ tx, held = some tx → tx.Stops ms → tx.id ≠ g.id) :
      ¬StopsIn ms g.id [(k, held)] := by
    rintro ⟨k', tx, member, stops, current⟩
    exact stays tx (Prod.mk.inj (List.mem_singleton.mp member)).2.symm stops current
  have closes (tx : SGSId) (stops : tx.Stops ms) (own : held = some tx) :
      ((g.closeStream tx.id).id = g.id ∧ (g.closeStream tx.id).repeaters = g.repeaters ∧
          ¬StopsIn ms g.id [(k, held)]) ∨
        ((g.closeStream tx.id).id = 0 ∧ (g.closeStream tx.id).repeaters = ∅ ∧
          StopsIn ms g.id [(k, held)]) := by
    unfold closeStream
    split
    · rename_i current
      exact .inr ⟨rfl, rfl, k, tx, by simp [own], stops, current⟩
    · rename_i other
      refine .inl ⟨rfl, rfl, goes fun tx' own' _ current => other ?_⟩
      rw [own] at own'
      cases own'
      exact current
  cases case with
  | null => exact .inl ⟨rfl, rfl, goes (by simp)⟩
  | waiting tx waits =>
      exact .inl ⟨rfl, rfl, goes (by rintro _ ⟨⟩ stops; exact absurd stops.2 waits)⟩
  | acknowledged tx expired ended =>
      exact .inl ⟨rfl, rfl, goes (by rintro _ ⟨⟩ stops; exact absurd ended stops.1)⟩
  | login tx stops login => exact closes tx stops rfl
  | logoff tx user logs_off held => exact closes tx logs_off.1 rfl
  | relay tx stops stays => exact closes tx stops rfl

theorem logsOffIn_append (ms : Nat) (t : Users) (l l' : List (Nat × Option SGSId)) (c : Str) :
    LogsOffIn ms t (l ++ l') c ↔ LogsOffIn ms t l c ∨ LogsOffIn ms t l' c := by
  simp only [LogsOffIn, List.mem_append, or_and_right, exists_or]

theorem stopsIn_append (ms id : Nat) (l l' : List (Nat × Option SGSId)) :
    StopsIn ms id (l ++ l') ↔ StopsIn ms id l ∨ StopsIn ms id l' := by
  simp only [StopsIn, List.mem_append, or_and_right, exists_or]

theorem logsOffIn_heap {t t' : Users} (heap : t'.heap = t.heap) (ms : Nat)
    (l : List (Nat × Option SGSId)) (c : Str) : LogsOffIn ms t' l c ↔ LogsOffIn ms t l c := by
  simp only [LogsOffIn, heap]

/-- The group after the entries gone through. -/
structure ClockedIds (ms : Nat) (g : GroupHandler) (done : List (Nat × Option SGSId))
    (outs : List Output) (g' : GroupHandler) : Prop where
  heap : g'.users.heap = g.users.heap
  find : ∀ c r, g'.users.find c = some r ↔ g.users.find c = some r ∧ ¬LogsOffIn ms g.users done c
  stream : (g'.id = g.id ∧ g'.repeaters = g.repeaters ∧ ¬StopsIn ms g.id done) ∨
    (g'.id = 0 ∧ g'.repeaters = ∅ ∧ StopsIn ms g.id done)
  silent : ∀ o ∈ outs, o.relayed = none ∧ o.lost = none

theorem ClockedIds.turn {env : Env} {ms : Nat} {g g' g'' : GroupHandler}
    {done : List (Nat × Option SGSId)} {outs more : List Output} {k : Nat} {held : Option SGSId}
    (sofar : ClockedIds ms g done outs g') (h : g'.clockId env ms (k, held) = .ok (g'', more)) :
    ClockedIds ms g (done ++ [(k, held)]) (outs ++ more) g'' := by
  obtain ⟨case, silent⟩ := clockId_case h
  obtain ⟨heap, find⟩ := case.users
  refine ⟨heap.trans sofar.heap, fun c r => ?_, ?_, fun o member => ?_⟩
  · rw [find, sofar.find, logsOffIn_heap sofar.heap, logsOffIn_append, not_or, and_assoc]
  · rw [stopsIn_append]
    rcases sofar.stream with ⟨id, repeaters, going⟩ | ⟨id, repeaters, stopped⟩
    · rcases case.stream with ⟨id', repeaters', going'⟩ | ⟨id', repeaters', stopped'⟩
      · rw [id] at going'
        exact .inl ⟨id'.trans id, repeaters'.trans repeaters, not_or.mpr ⟨going, going'⟩⟩
      · rw [id] at stopped'
        exact .inr ⟨id', repeaters', .inr stopped'⟩
    · rcases case.stream with ⟨id', repeaters', -⟩ | ⟨id', repeaters', -⟩
      · exact .inr ⟨id'.trans id, repeaters'.trans repeaters, .inl stopped⟩
      · exact .inr ⟨id', repeaters', .inl stopped⟩
  · rcases List.mem_append.mp member with before | now
    · exact sofar.silent o before
    · exact silent o now

/-- What the loop over the pending ids does. -/
theorem clockIds_spec {env : Env} {ms : Nat} {g g' : GroupHandler} {outs : List Output}
    (h : g.clockIds env ms = .ok (g', outs)) :
    ClockedIds ms g g.ids.toList outs g' ∧ ∀ k : Nat, g'.ids[k]? = g.ids[k]?.bind (idAfter ms) := by
  constructor
  · refine tryEach_progress (S := ClockedIds ms g) ?_ (fun _ sofar turn => sofar.turn turn) h
    exact ⟨rfl, by simp [LogsOffIn], .inl ⟨rfl, rfl, by simp [StopsIn]⟩, by simp⟩
  · intro k
    refine tryEach_toList (π := fun g : GroupHandler => g.ids) (u := fun _ => idAfter ms) ?_ h k
    intro s k held s' o present turn
    exact (clockId_case turn).1.ids present

/-- The loop faults only where the owner of a pending id is gone. -/
theorem clockIds_completes (env : Env) (ms : Nat) {g : GroupHandler}
    (owned : ∀ k tx, g.Pending k tx → g.users.heap.Alive tx.user) :
    ∃ g' outs, g.clockIds env ms = .ok (g', outs) := by
  have loop : ∀ (l : List (Nat × Option SGSId)) (s : GroupHandler), s.users.heap = g.users.heap →
      (∀ k tx, (k, some tx) ∈ l → g.users.heap.Alive tx.user) →
      ∃ g' outs, tryEach (clockId env ms) s l = .ok (g', outs) := by
    intro l
    induction l with
    | nil => exact fun s _ _ => ⟨s, [], rfl⟩
    | cons entry l ih =>
        intro s heap owned
        obtain ⟨k, held⟩ := entry
        have first : ∃ s' o, clockId env ms s (k, held) = .ok (s', o) := by
          cases held with
          | none => exact ⟨s, [], rfl⟩
          | some tx =>
              obtain ⟨u, owner⟩ := (Heap.alive_iff _ _).mp (owned k tx List.mem_cons_self)
              have owner' : s.users.heap.cell (tx.clock ms).user = some u := heap ▸ owner
              simp only [clockId, owner']
              split
              · exact ⟨_, _, rfl⟩
              · split
                · exact ⟨_, _, rfl⟩
                · split
                  · exact ⟨_, _, rfl⟩
                  · split <;> exact ⟨_, _, rfl⟩
        obtain ⟨s', o, turn⟩ := first
        obtain ⟨g', outs, rest⟩ := ih s' ((clockId_case turn).1.users.1.trans heap)
          fun k tx member => owned k tx (List.mem_cons_of_mem _ member)
        exact ⟨g', o ++ outs, by simp [tryEach, turn, rest]⟩
  exact loop g.ids.toList g rfl fun k tx member => owned k tx (mem_toList.mp member)

end GroupHandler
end SmartGroup
