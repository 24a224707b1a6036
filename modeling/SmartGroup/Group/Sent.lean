import SmartGroup.Group.LinkFrame
import SmartGroup.Group.Stream

/-! What a step of a group puts out, and from which packet it is made. -/
namespace SmartGroup
open Bytes Sweep Objects Machine

/-- A request to the ircDDB network, a ping or a line of the log: neither a packet nor
a report to a user. -/
def Output.Bookkeeping : Output → Prop
  | .findUser _ _ | .heard _ _ | .ping _ _ | .adding _ | .removing _ _ | .erasedRead _ => True
  | _ => False

/-- A packet for the repeaters of the subscribers. -/
def Output.ToSubscribers : Output → Prop
  | .relayHeader _ | .relayAMBE _ | .writeHeader _ _ | .writeAMBE _ _ => True
  | _ => False

/-- A packet handed to the handler of the reflector link. -/
def Output.ToReflector : Output → Prop
  | .reflectorHeader _ _ | .reflectorAMBE _ _ => True
  | _ => False

theorem Output.Bookkeeping.no_packet {o : Output} (book : o.Bookkeeping) :
    ¬o.ToSubscribers ∧ ¬o.ToReflector := by
  cases o <;> first | exact book.elim | exact ⟨not_false, not_false⟩

namespace GroupHandler

/-! Outputs that are no packets. -/

theorem recordHeader_book (env : Env) (g : GroupHandler) (header : HeaderData) :
    ∀ o ∈ (g.recordHeader env header).2.2, o.Bookkeeping := by
  have finds : ∀ o ∈ (if env.findUserAddr header.myCall1 = [] then
      env.ircs.map fun irc => Output.findUser irc.1 header.myCall1 else []), o.Bookkeeping := by
    intro o member
    split at member
    · obtain ⟨irc, -, rfl⟩ := List.mem_map.mp member
      exact trivial
    · cases member
  intro o member
  unfold recordHeader at member
  dsimp only at member
  split at member
  · split at member
    · rcases List.mem_append.mp member with found | added
      · exact finds o found
      · rw [List.mem_singleton.mp added]
        exact trivial
    · split at member <;> exact finds o member
  · split at member
    · exact finds o member
    · rcases List.mem_append.mp member with found | removed
      · exact finds o found
      · simp only [List.mem_cons, List.not_mem_nil, or_false] at removed
        rcases removed with rfl | rfl <;> exact trivial

theorem logoffUser_book (g : GroupHandler) (c : Str) :
    ∀ o ∈ (g.logoffUser c).2.2, o.Bookkeeping := by
  intro o member
  unfold logoffUser at member
  split at member
  · obtain ⟨entry, -, removed⟩ := List.mem_filterMap.mp member
    obtain ⟨user, -, rfl⟩ := Option.map_eq_some_iff.mp removed
    exact trivial
  · split at member
    · cases member
    · rw [List.mem_singleton.mp member]
      exact trivial

theorem clockPing_book (env : Env) (ms : Nat) (g : GroupHandler) :
    ∀ o ∈ (g.clockPing env ms).2, o.Bookkeeping := by
  intro o member
  unfold clockPing at member
  dsimp only at member
  split at member
  · rcases List.mem_append.mp member with scanned | ping
    · refine forEach_outputs (fun s entry _ o sent => ?_) _ o scanned
      unfold scanUser at sent
      dsimp only at sent
      split at sent
      · cases sent
      · split at sent
        · split at sent
          · rw [List.mem_singleton.mp sent]
            exact trivial
          · obtain ⟨irc, -, rfl⟩ := List.mem_map.mp sent
            exact trivial
        · cases sent
    · obtain ⟨address, -, rfl⟩ := List.mem_map.mp ping
      exact trivial
  · cases member

theorem clockAnnounce_book (env : Env) (ms : Nat) (g : GroupHandler) :
    ∀ o ∈ (g.clockAnnounce env ms).2, o.Bookkeeping := by
  intro o member
  unfold clockAnnounce at member
  dsimp only at member
  split at member
  · obtain ⟨irc, -, heard⟩ := List.mem_flatMap.mp member
    obtain ⟨name, -, rfl⟩ := List.mem_map.mp heard
    exact trivial
  · cases member

theorem clockExpiry_book (g : GroupHandler) : ∀ o ∈ g.clockExpiry.2, o.Bookkeeping := by
  intro o member
  unfold clockExpiry at member
  split at member
  · cases member
  · refine forEach_outputs (fun t entry _ o sent => ?_) _ o member
    unfold expireUser at sent
    split at sent
    · cases sent
    · split at sent
      · rw [List.mem_singleton.mp sent]
        exact trivial
      · cases sent

/-! Packets and reports. -/

theorem sendToRepeaters_subscribers (env : Env) (g : GroupHandler) (header : HeaderData) :
    ∀ o ∈ g.sendToRepeaters env header, ¬o.ToReflector := by
  intro o member
  rcases List.mem_cons.mp member with rfl | written
  · exact not_false
  · obtain ⟨entry, -, rfl⟩ := List.mem_map.mp written
    exact not_false

theorem sendAMBEToRepeaters_subscribers (env : Env) (g : GroupHandler) (data : AMBEData) :
    ∀ o ∈ g.sendAMBEToRepeaters env data, ¬o.ToReflector := by
  intro o member
  rcases List.mem_cons.mp member with rfl | written
  · exact not_false
  · obtain ⟨entry, -, rfl⟩ := List.mem_map.mp written
    exact not_false

theorem sendFromText_subscribers (env : Env) (g : GroupHandler) :
    ∀ o ∈ g.sendFromText env, ¬o.ToReflector := by
  intro o member
  obtain ⟨frame, -, sent⟩ := List.mem_flatMap.mp member
  exact sendAMBEToRepeaters_subscribers env g frame o sent

theorem sendAck_subscribers (env : Env) (g : GroupHandler) (i : Nat) (irc : IRCDDB)
    (user text : Str) (draw : Nat) : ∀ o ∈ g.sendAck env i irc user text draw, ¬o.ToReflector := by
  intro o member
  simp only [sendAck, List.mem_cons, List.mem_map] at member
  rcases member with rfl | rfl | ⟨frame, -, rfl⟩ <;> exact not_false

/-- The header under which a user's stream goes out. -/
def relayedHeader (g : GroupHandler) (header : HeaderData) : HeaderData :=
  if g.linkType ≠ .none then
    (header.setCQCQCQ.setFlags 0x00 0x00 0x00).setRepeaters g.linkGateway g.linkReflector
  else header.setCQCQCQ.setFlags 0x00 0x00 0x00

/-- The places from which a step that leads from `g` to `g'` puts something out. -/
inductive Sent (g g' : GroupHandler) : GroupEvent → Output → Prop
  | book (e : GroupEvent) (o : Output) (book : o.Bookkeeping) : Sent g g' e o
  | opened (env : Env) (header : HeaderData) (o : Output) (accepted : g.Accepts header)
      (opens : g.Opens header) (subscribed : g.users.Subscribed header.myCall1)
      (talks : ¬g.listenOnly)
      (sent : (g.linkType ≠ .none ∧ o = .reflectorHeader g.linkType (g.relayedHeader header)) ∨
        o ∈ g'.sendToRepeaters env (g.relayedHeader header) ∨ o ∈ g'.sendFromText env) :
      Sent g g' (.g2Header env header) o
  | voice (env : Env) (data : AMBEData) (o : Output) (tx : SGSId) (current : data.getId = g.id)
      (pending : g.Pending g.id tx) (stays : ¬tx.login) (talks : ¬g.listenOnly)
      (sent : (g.linkType ≠ .none ∧ o = .reflectorAMBE g.linkType data) ∨
        o ∈ g.sendAMBEToRepeaters env data) :
      Sent g g' (.g2AMBE env data) o
  | reflectorHeader (env : Env) (header : HeaderData) (o : Output) (idle : g.id = 0)
      (sent : o ∈ g'.sendToRepeaters env (header.setCQCQCQ.setFlags 0x00 0x00 0x00) ∨
        o ∈ g'.sendFromText env) :
      Sent g g' (.reflectorHeader env header) o
  | reflectorAMBE (env : Env) (data : AMBEData) (o : Output) (current : data.getId = g.id)
      (stays : ¬(g.ids[g.id]?.join.any (·.login)))
      (sent : o ∈ g.sendAMBEToRepeaters env data) :
      Sent g g' (.reflectorAMBE env data) o
  | report (env : Env) (ms k i : Nat) (tx : SGSId) (u : SGSUser) (irc : IRCDDB) (text : Str)
      (o : Output) (pending : g.Pending k tx) (owner : g.users.heap.cell tx.user = some u)
      (sent : o = .cannotFind u.callsign ∨
        o ∈ g.sendAck env i irc u.callsign text (env.rand k)) :
      Sent g g' (.clock env ms) o

/-- What a header that opens a stream puts out. -/
theorem openStream_outs (env : Env) (g : GroupHandler) (header : HeaderData) (islogin : Bool) :
    (g.openStream env header islogin).2 = if islogin ∨ g.listenOnly then [] else
      (if g.linkType = .none then [] else [.reflectorHeader g.linkType (g.relayedHeader header)]) ++
        ((g.openStream env header islogin).1.sendToRepeaters env (g.relayedHeader header) ++
          (g.openStream env header islogin).1.sendFromText env) := by
  by_cases quiet : islogin ∨ g.listenOnly
  · have silent : ¬(g.linkType ≠ .none ∧ ¬islogin ∧ ¬g.listenOnly) :=
      fun linked => quiet.elim linked.2.1 linked.2.2
    rw [if_pos quiet]
    simp only [openStream, if_neg silent, if_pos quiet, List.append_nil]
  · obtain ⟨old, talks⟩ := not_or.mp quiet
    rw [if_neg quiet]
    by_cases unlinked : g.linkType = .none
    · have silent : ¬(g.linkType ≠ .none ∧ ¬islogin ∧ ¬g.listenOnly) := fun linked => linked.1 unlinked
      have same : g.relayedHeader header = header.setCQCQCQ.setFlags 0x00 0x00 0x00 :=
        if_neg (not_not.mpr unlinked)
      simp only [openStream, if_neg silent, if_neg quiet, if_pos unlinked, same]
    · have linked : g.linkType ≠ .none ∧ ¬islogin ∧ ¬g.listenOnly := ⟨unlinked, old, talks⟩
      have same : g.relayedHeader header =
          (header.setCQCQCQ.setFlags 0x00 0x00 0x00).setRepeaters g.linkGateway g.linkReflector :=
        if_pos unlinked
      simp only [openStream, if_pos linked, if_neg quiet, if_neg unlinked, same]

theorem openStream_sent {env : Env} {g g₁ : GroupHandler} {header : HeaderData} {islogin : Bool}
    (case : HeaderCase env g header (some islogin) g₁) {o : Output}
    (member : o ∈ (g₁.openStream env header islogin).2) :
    islogin = false ∧ ¬g.listenOnly ∧
      ((g.linkType ≠ .none ∧ o = .reflectorHeader g.linkType (g.relayedHeader header)) ∨
        o ∈ (g₁.openStream env header islogin).1.sendToRepeaters env (g.relayedHeader header) ∨
        o ∈ (g₁.openStream env header islogin).1.sendFromText env) := by
  have listens : g₁.listenOnly = g.listenOnly := case.frame.2.2.1
  have linkType : g₁.linkType = g.linkType := by cases case <;> rfl
  have relayed : g₁.relayedHeader header = g.relayedHeader header := by cases case <;> rfl
  rw [openStream_outs, listens, linkType, relayed] at member
  split at member
  · cases member
  · rename_i relays
    rw [not_or] at relays
    refine ⟨Bool.eq_false_of_not_eq_true relays.1, relays.2, ?_⟩
    rcases List.mem_append.mp member with linked | sent
    · split at linked
      · cases linked
      · rename_i link
        exact .inl ⟨link, List.mem_singleton.mp linked⟩
    · exact .inr (List.mem_append.mp sent)

/-- What a voice frame of a user with a pending id puts out. -/
theorem processAMBE_outs {env : Env} {g g' : GroupHandler} {data : AMBEData} {outs : List Output}
    {tx : SGSId} (pending : g.Pending data.getId tx) (h : g.processAMBE env data = .ok (g', outs)) :
    outs = if data.getId = g.id ∧ ¬tx.login ∧ ¬g.listenOnly then
        (if g.linkType = .none then [] else [.reflectorAMBE g.linkType data]) ++
          g.sendAMBEToRepeaters env data
      else [] := by
  unfold Pending at pending
  unfold processAMBE at h
  dsimp only at h
  simp only [pending] at h
  split at h
  · cases h
  · split at h
    · split at h
      · cases h
        rfl
      · split at h <;> cases h <;> rfl
    · cases h
      rfl

/-- Without a pending id it puts out nothing. -/
theorem processAMBE_unknown {env : Env} {g g' : GroupHandler} {data : AMBEData} {outs : List Output}
    (unknown : ∀ tx, ¬g.Pending data.getId tx) (h : g.processAMBE env data = .ok (g', outs)) :
    outs = [] := by
  unfold processAMBE at h
  dsimp only at h
  split at h
  · cases h
    rfl
  · cases h
  · rename_i tx pending
    exact absurd pending (unknown tx)

theorem processAMBE_sent {env : Env} {g g' : GroupHandler} {data : AMBEData} {outs : List Output}
    (h : g.processAMBE env data = .ok (g', outs)) {o : Output} (member : o ∈ outs) :
    Sent g g' (.g2AMBE env data) o := by
  by_cases known : ∃ tx, g.Pending data.getId tx
  · obtain ⟨tx, pending⟩ := known
    rw [processAMBE_outs pending h] at member
    split at member
    · rename_i relays
      obtain ⟨current, stays, talks⟩ := relays
      refine .voice env data o tx current (current ▸ pending) stays talks ?_
      rcases List.mem_append.mp member with linked | sent
      · split at linked
        · cases linked
        · rename_i link
          exact .inl ⟨link, List.mem_singleton.mp linked⟩
      · exact .inr sent
    · cases member
  · rw [processAMBE_unknown (not_exists.mp known) h] at member
    cases member

theorem processReflectorHeader_sent {env : Env} {g : GroupHandler} {header : HeaderData} {o : Output}
    (member : o ∈ (g.processReflectorHeader env header).2.2) :
    Sent g (g.processReflectorHeader env header).2.1 (.reflectorHeader env header) o := by
  unfold processReflectorHeader at member ⊢
  split at member
  · cases member
  · rename_i stream
    rw [if_neg stream]
    refine .reflectorHeader env header o (not_not.mp stream) ?_
    rcases List.mem_append.mp member with sent | text
    · split at sent
      · cases sent
      · exact .inl sent
    · exact .inr text

theorem processReflectorAMBE_sent (env : Env) {g g' : GroupHandler} {data : AMBEData} {o : Output}
    (member : o ∈ (g.processReflectorAMBE env data).2.2) :
    Sent g g' (.reflectorAMBE env data) o := by
  unfold processReflectorAMBE at member
  by_cases current : data.getId = g.id
  · have sent : o ∈ if ((g.ids[g.id]?).getD none).any (·.login) then []
        else g.sendAMBEToRepeaters env data := by
      simp only [current, ne_eq, not_true_eq_false, if_false] at member
      split at member <;> exact member
    split at sent
    · cases sent
    · rename_i stays
      refine .reflectorAMBE env data o current ?_ sent
      cases held : g.ids[g.id]? with
      | none => simp
      | some entry => simpa [held] using stays
  · simp only [ne_eq, current, not_false_eq_true, if_true] at member
    cases member

/-- What one turn over the pending ids puts out. -/
theorem clockId_sent {env : Env} {ms : Nat} {g g' : GroupHandler} {k : Nat} {held : Option SGSId}
    {outs : List Output} (h : g.clockId env ms (k, held) = .ok (g', outs)) {o : Output}
    (member : o ∈ outs) : ∃ tx u i irc text, held = some tx ∧ g.users.heap.cell tx.user = some u ∧
      (o = .cannotFind u.callsign ∨ o ∈ g.sendAck env i irc u.callsign text (env.rand k)) := by
  cases held with
  | none =>
      cases h
      cases member
  | some tx =>
      unfold clockId at h
      dsimp only at h
      split at h
      · cases h
        cases member
      · split at h
        · cases h
        · rename_i u owner
          split at h
          · cases h
            unfold acknowledge at member
            split at member
            · exact ⟨tx, u, 0, env.irc0, [], rfl, owner, .inl (List.mem_singleton.mp member)⟩
            · rename_i i irc _
              split at member
              · exact ⟨tx, u, i, irc, _, rfl, owner, .inr member⟩
              · split at member
                · exact ⟨tx, u, i, irc, _, rfl, owner, .inr member⟩
                · cases member
          · split at h
            · cases h
              cases member
            · split at h <;> cases h <;> cases member

theorem sendAck_settings {g g' : GroupHandler} (same : g'.settings = g.settings) (env : Env) (i : Nat)
    (irc : IRCDDB) (user text : Str) (draw : Nat) :
    g'.sendAck env i irc user text draw = g.sendAck env i irc user text draw := by
  have callsign : g'.groupCallsign = g.groupCallsign := congrArg Settings.groupCallsign same
  simp only [sendAck, callsign]

/-- A report to the owner of a pending id. -/
def ReportFor (g : GroupHandler) (env : Env) (o : Output) : Prop :=
  ∃ k i tx u irc text, g.Pending k tx ∧ g.users.heap.cell tx.user = some u ∧
    (o = .cannotFind u.callsign ∨ o ∈ g.sendAck env i irc u.callsign text (env.rand k))

theorem clockIds_sent {env : Env} {ms : Nat} {g g' : GroupHandler} {outs : List Output}
    (h : g.clockIds env ms = .ok (g', outs)) : ∀ o ∈ outs, g.ReportFor env o := by
  have sent : g'.users.heap = g.users.heap ∧ g'.settings = g.settings ∧
      ∀ o ∈ outs, g.ReportFor env o := by
    refine tryEach_progress (S := fun _ outs s => s.users.heap = g.users.heap ∧
      s.settings = g.settings ∧ ∀ o ∈ outs, g.ReportFor env o) ⟨rfl, rfl, by simp⟩ ?_ h
    rintro done a rest outs s s' more split ⟨heap, settings, sofar⟩ turn
    obtain ⟨case, -⟩ := clockId_case turn
    refine ⟨case.users.1.trans heap, (fixed_settings.clockId case).trans settings, fun o member => ?_⟩
    rcases List.mem_append.mp member with earlier | now
    · exact sofar o earlier
    · obtain ⟨tx, u, i, irc, text, held, owner, report⟩ := clockId_sent turn now
      have entry : (a.1, a.2) ∈ g.ids.toList := by rw [split]; simp
      rw [held] at entry
      rw [heap] at owner
      rw [sendAck_settings settings] at report
      exact ⟨a.1, i, tx, u, irc, text, mem_toList.mp entry, owner, report⟩
  exact sent.2.2

theorem clockInt_sent {env : Env} {ms : Nat} {g g' : GroupHandler} {outs : List Output}
    (h : g.clockInt env ms = .ok (g', outs)) {o : Output} (member : o ∈ outs) :
    Sent g g' (.clock env ms) o := by
  obtain ⟨g₅, acks, loop, rfl, rfl⟩ := clockInt_ok h
  simp only [List.mem_append] at member
  rcases member with ((ping | heard) | report) | expired
  · exact .book _ o (clockPing_book env ms g o ping)
  · exact .book _ o (clockAnnounce_book env ms _ o heard)
  · obtain ⟨k, i, tx, u, irc, text, pending, owner, sent⟩ := clockIds_sent loop o report
    obtain ⟨users, ids, -⟩ := g.beforeIds_frame env ms
    rw [Pending, ids] at pending
    rw [users] at owner
    rw [sendAck_settings (fixed_settings.beforeIds env ms g)] at sent
    obtain ⟨u₀, owner₀, named⟩ :=
      ((g.clockPing_spec env ms).2.1.cell_iff tx.user (·.1 = u.callsign)).mp ⟨u, owner, rfl⟩
    dsimp only at named
    rw [← named] at sent
    exact .report env ms k i tx u₀ irc text o pending owner₀ sent
  · exact .book _ o (clockExpiry_book _ o expired)

theorem step_sends {g g' : GroupHandler} {e : GroupEvent} {outs : List Output}
    (h : step g e = .ok (g', outs)) {o : Output} (member : o ∈ outs) : Sent g g' e o := by
  cases step_case h with
  | refused env header _ => cases member
  | opened env header islogin g₁ accepted opens case =>
      rcases List.mem_append.mp member with recorded | sent
      · exact .book _ o (recordHeader_book env g header o recorded)
      · obtain ⟨rfl, talks, sent⟩ := openStream_sent case sent
        exact .opened env header o accepted opens case.subscribed_of_open talks sent
  | recorded env header go _ _ _ _ => exact .book _ o (recordHeader_book env g header o member)
  | skipped env data _ => cases member
  | voice env data _ _ current _ _ =>
      simp only [step, current, if_true] at h
      exact processAMBE_sent h member
  | reflectorHeader env header _ _ =>
      simp only [step, Except.ok.injEq] at h
      have sent := processReflectorHeader_sent member
      rwa [h] at sent
  | reflectorAMBE env data _ _ _ _ =>
      simp only [step, Except.ok.injEq] at h
      apply processReflectorAMBE_sent env
      rwa [h]
  | logoffUser c _ _ _ _ =>
      simp only [step, Except.ok.injEq] at h
      refine .book _ o (logoffUser_book g c o ?_)
      rwa [h]
  | clock env ms _ _ _ =>
      simp only [step] at h
      exact clockInt_sent h member
  | relink info => cases member

/-! What goes to the link. -/

/-- A header that opens a stream is handed to the link. -/
def TellsLink (g : GroupHandler) (header : HeaderData) : Prop :=
  g.linkType ≠ .none ∧ g.users.Subscribed header.myCall1 ∧ ¬g.listenOnly

/-- A voice frame is handed to the link. -/
def LinksFrame (g : GroupHandler) (data : AMBEData) : Prop :=
  data.getId = g.id ∧ g.linkType ≠ .none ∧ ¬g.listenOnly ∧ ∃ tx, g.Pending g.id tx ∧ ¬tx.login

/-- Where the header for the link stands among the outputs of the step that opens a stream. -/
theorem opened_outs {env : Env} {g g' : GroupHandler} {header : HeaderData} {outs : List Output}
    (opens : g.Opens header) (tells : g.TellsLink header) (accepted : g.Accepts header)
    (h : step g (.g2Header env header) = .ok (g', outs)) :
    ∃ before after, outs = before ++ .reflectorHeader g.linkType (g.relayedHeader header) :: after ∧
      (∀ o ∈ before, ¬o.ToReflector) ∧ ∀ o ∈ after, ¬o.ToReflector := by
  obtain ⟨linked, subscribed, talks⟩ := tells
  cases step_case h with
  | refused _ _ refuses => exact absurd accepted refuses
  | recorded _ _ _ _ _ closed _ => exact absurd opens closed
  | opened _ _ islogin g₁ _ _ case =>
      have old : islogin = false := by
        cases case with
        | login _ absent => simp [Users.Subscribed, absent] at subscribed
        | again _ _ _ _ => rfl
      have listens : g₁.listenOnly = g.listenOnly := case.frame.2.2.1
      have linkType : g₁.linkType = g.linkType := by cases case <;> rfl
      have relayed : g₁.relayedHeader header = g.relayedHeader header := by cases case <;> rfl
      have quiet : ¬(islogin = true ∨ g₁.listenOnly = true) := by simp [old, listens, talks]
      refine ⟨_, (g₁.openStream env header islogin).1.sendToRepeaters env (g.relayedHeader header) ++
        (g₁.openStream env header islogin).1.sendFromText env, ?_,
        fun o member => (recordHeader_book env g header o member).no_packet.2, fun o member => ?_⟩
      · rw [openStream_outs, if_neg quiet, linkType, if_neg linked, relayed]
        rfl
      · rcases List.mem_append.mp member with sent | text
        · exact sendToRepeaters_subscribers env _ _ o sent
        · exact sendFromText_subscribers env _ o text

/-- The link gets the headers of the users' streams and their voice frames. -/
theorem Sent.to_link {g g' : GroupHandler} {e : GroupEvent} {o : Output} (sent : Sent g g' e o)
    (link : o.ToReflector) :
    (∃ env header, e = .g2Header env header ∧ g.Accepts header ∧ g.Opens header ∧
        g.TellsLink header ∧ o = .reflectorHeader g.linkType (g.relayedHeader header)) ∨
      ∃ env data, e = .g2AMBE env data ∧ g.LinksFrame data ∧ o = .reflectorAMBE g.linkType data := by
  cases sent with
  | book _ _ book => exact absurd link book.no_packet.2
  | opened env header _ accepted opens subscribed talks sent =>
      rcases sent with ⟨linked, same⟩ | sent | text
      · exact .inl ⟨env, header, rfl, accepted, opens, ⟨linked, subscribed, talks⟩, same⟩
      · exact absurd link (sendToRepeaters_subscribers env g' _ o sent)
      · exact absurd link (sendFromText_subscribers env g' o text)
  | voice env data _ tx current pending stays talks sent =>
      rcases sent with ⟨linked, same⟩ | sent
      · exact .inr ⟨env, data, rfl, ⟨current, linked, talks, tx, pending, stays⟩, same⟩
      · exact absurd link (sendAMBEToRepeaters_subscribers env g _ o sent)
  | reflectorHeader env header _ _ sent =>
      rcases sent with sent | text
      · exact absurd link (sendToRepeaters_subscribers env g' _ o sent)
      · exact absurd link (sendFromText_subscribers env g' o text)
  | reflectorAMBE env data _ _ _ sent =>
      exact absurd link (sendAMBEToRepeaters_subscribers env g _ o sent)
  | report env ms k i tx u irc text _ _ _ sent =>
      rcases sent with rfl | acked
      · exact link.elim
      · exact absurd link (sendAck_subscribers env g i irc _ text _ o acked)

/-- A step that hands a voice frame to the link hands over the frame that it takes. -/
theorem voice_outs {g g' : GroupHandler} {e : GroupEvent} {outs : List Output} {type : LinkType}
    {data : AMBEData} (h : step g e = .ok (g', outs)) (handed : .reflectorAMBE type data ∈ outs) :
    type = g.linkType ∧ g.LinksFrame data ∧ ∃ env after, e = .g2AMBE env data ∧
      outs = .reflectorAMBE type data :: after ∧ ∀ o ∈ after, ¬o.ToReflector := by
  rcases (step_sends h handed).to_link trivial with
    ⟨env, header, -, -, -, -, same⟩ | ⟨env, data', rfl, linked, same⟩
  · cases same
  · cases same
    obtain ⟨current, link, talks, tx, pending, stays⟩ := linked
    refine ⟨rfl, ⟨current, link, talks, tx, pending, stays⟩, env, g.sendAMBEToRepeaters env data, rfl,
      ?_, sendAMBEToRepeaters_subscribers env g data⟩
    simp only [step, current, if_true] at h
    rw [processAMBE_outs (current.symm ▸ pending) h, if_pos ⟨current, stays, talks⟩, if_neg link]
    rfl

/-- A header reaches the link in a step that opens a stream with it. -/
theorem header_outs {g g' : GroupHandler} {e : GroupEvent} {outs : List Output} {type : LinkType}
    {header : HeaderData} (h : step g e = .ok (g', outs))
    (handed : .reflectorHeader type header ∈ outs) :
    ∃ env header', e = .g2Header env header' ∧ g.Accepts header' ∧ g.Opens header' := by
  rcases (step_sends h handed).to_link trivial with
    ⟨env, header', event, accepted, opens, -⟩ | ⟨env, data, -, -, same⟩
  · exact ⟨env, header', event, accepted, opens⟩
  · cases same

end GroupHandler
end SmartGroup
