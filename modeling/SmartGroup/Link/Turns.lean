import SmartGroup.Group.LinkFrame
import SmartGroup.Link.World

/-! The calls of a link handler that leave its link as it is: voice, polls and the
retries of a clock tick. -/
namespace SmartGroup
open Bytes Sweep Machine

/-- The link members of the group and the link of the handler stay, and only a handler
that is linking sends a `CT_LINK1`. -/
structure Keeps {α : Type} {n : Nat} (base : α → LinkHandler n) (h : α) (g : GroupHandler)
    (turn : GroupHandler × Option α × List HandlerOutput) : Prop where
  info : turn.1.linkInfo = g.linkInfo
  link : ∃ h', turn.2.1 = some h' ∧ ∀ protocol, (base h').link protocol = (base h).link protocol
  calls : ∀ c, .connect c ∈ turn.2.2 → c.type = .link1 → (base h).linkState = .linking

theorem Keeps.refl {α : Type} {n : Nat} (base : α → LinkHandler n) (h : α) (g : GroupHandler) :
    Keeps base h g (g, some h, []) := ⟨rfl, ⟨h, rfl, fun _ => rfl⟩, by simp⟩

/-- The outputs of the group are no packets of the handler. -/
theorem connect_not_mem_group (c : ConnectData) (outs : List Output) :
    HandlerOutput.connect c ∉ outs.map .group := by simp

/-- The ways through a clock tick of a handler. -/
inductive HandlerClockCase {α : Type} {n : Nat} (base : α → LinkHandler n) (ms : Nat) (h : α)
    (g : GroupHandler) : GroupHandler × Option α × List HandlerOutput → Prop
  | rests {turn} (quiet : ¬(base h).pollInactivityTimer.fires ms) (keeps : Keeps base h g turn) :
      HandlerClockCase base ms h g turn
  | relinks (h' : α) (c : ConnectData) (fires : (base h).pollInactivityTimer.fires ms)
      (outgoing : (base h).direction = .outgoing) (active : GroupHandler.LinkActive g.linkStatus)
      (link : ∀ protocol,
        (base h').link protocol = { (base h).link protocol with state := .linking })
      (type : c.type = .link1) :
      HandlerClockCase base ms h g
        ({ g with linkStatus := GroupHandler.linkingStatus g.linkType }, some h', [.connect c])
  | expires (fires : (base h).pollInactivityTimer.fires ms)
      (lost : (base h).direction = .outgoing → ¬GroupHandler.LinkActive g.linkStatus) :
      HandlerClockCase base ms h g (g, none, [])

theorem linkFailed_true_of_active {g : GroupHandler} (active : GroupHandler.LinkActive g.linkStatus) :
    g.linkFailed true = (true, { g with linkStatus := GroupHandler.linkingStatus g.linkType }) := by
  simp [GroupHandler.linkFailed, active]

theorem linkFailed_true_of_not_active {g : GroupHandler}
    (inactive : ¬GroupHandler.LinkActive g.linkStatus) : g.linkFailed true = (false, g) := by
  simp [GroupHandler.linkFailed, inactive]

namespace DExtraHandler

variable {n : Nat} (h : DExtraHandler n) (g : GroupHandler)

theorem keeps_processHeader (env : Env) (header : HeaderData) :
    Keeps DExtraHandler.toLinkHandler h g (h.processHeader env header g) := by
  unfold processHeader
  dsimp only
  repeat' split
  all_goals first
    | exact .refl _ h g
    | exact ⟨g.linkInfo_processReflectorHeader env _, ⟨_, rfl, fun _ => rfl⟩,
        fun c called => absurd called (connect_not_mem_group c _)⟩

theorem repeatHeader_linkInfo (env : Env) (data : AMBEData) :
    (h.repeatHeader env data g).1.linkInfo = g.linkInfo := by
  unfold repeatHeader
  split
  · split
    · exact g.linkInfo_processReflectorHeader env _
    · rfl
  · rfl

theorem keeps_processAMBE (env : Env) (data : AMBEData) :
    Keeps DExtraHandler.toLinkHandler h g (h.processAMBE env data g) := by
  unfold processAMBE
  dsimp only
  split
  · exact .refl _ h g
  · split
    · exact .refl _ h g
    · refine ⟨?_, ⟨_, rfl, fun protocol => ?_⟩, fun c called => absurd called (connect_not_mem_group c _)⟩
      · rw [GroupHandler.linkInfo_processReflectorAMBE, repeatHeader_linkInfo]
      · split <;> rfl

theorem keeps_processPoll (poll : PollData) :
    Keeps DExtraHandler.toLinkHandler h g (h.processPoll poll g) := by
  unfold processPoll
  split
  · exact ⟨rfl, ⟨_, rfl, fun _ => rfl⟩, by simp⟩
  · exact .refl _ h g

theorem keeps_writeHeader (group : Fin n) (header : HeaderData) (direction : Direction) :
    Keeps DExtraHandler.toLinkHandler h g (h.writeHeader group header direction g) := by
  unfold writeHeader
  split
  · exact ⟨rfl, ⟨h, rfl, fun _ => rfl⟩, by simp⟩
  · exact .refl _ h g

theorem keeps_writeAMBE (group : Fin n) (data : AMBEData) (direction : Direction) :
    Keeps DExtraHandler.toLinkHandler h g (h.writeAMBE group data direction g) := by
  unfold writeAMBE
  split
  · exact ⟨rfl, ⟨h, rfl, fun _ => rfl⟩, by simp⟩
  · exact .refl _ h g

theorem clockPoll_link (callsign : Str) (protocol : DStarProtocol) :
    (h.clockPoll callsign).1.link protocol = h.link protocol := by
  unfold clockPoll
  split <;> rfl

theorem clockInactivity_link (protocol : DStarProtocol) :
    h.clockInactivity.link protocol = h.link protocol := by
  unfold clockInactivity
  split <;> rfl

theorem clockTry_link (protocol : DStarProtocol) :
    h.clockTry.1.link protocol = h.link protocol := by
  unfold clockTry
  split <;> rfl

theorem clockPoll_calls (callsign : Str) (c : ConnectData) :
    .connect c ∉ (h.clockPoll callsign).2 := by
  unfold clockPoll
  split
  · dsimp only
    split <;> simp
  · simp

theorem clockTry_calls {c : ConnectData} (called : .connect c ∈ h.clockTry.2) :
    h.linkState = .linking := by
  unfold clockTry at called
  split at called
  · rename_i due
    simp only [Bool.and_eq_true, decide_eq_true_eq] at due
    exact due.1.1
  · cases called

theorem keeps_clockRest (callsign : Str) :
    Keeps DExtraHandler.toLinkHandler h g
      (g, some (h.clockRest callsign).1, (h.clockRest callsign).2) := by
  have before (protocol : DStarProtocol) :
      (h.clockPoll callsign).1.clockInactivity.link protocol = h.link protocol := by
    rw [clockInactivity_link, clockPoll_link]
  refine ⟨rfl, ⟨_, rfl, fun protocol => ?_⟩, fun c called _ => ?_⟩
  · exact (clockTry_link _ protocol).trans (before protocol)
  · rcases List.mem_append.mp called with polled | tried
    · exact absurd polled (h.clockPoll_calls callsign c)
    · exact (congrArg Link.state (before .dextra)).symm.trans (clockTry_calls _ tried)

theorem clockInt_case (callsign : Str) (ms : Nat) :
    HandlerClockCase DExtraHandler.toLinkHandler ms h g (h.clockInt callsign ms g) := by
  unfold clockInt
  dsimp only
  split
  · rename_i fires
    split
    · rename_i outgoing
      by_cases active : GroupHandler.LinkActive g.linkStatus
      · rw [linkFailed_true_of_active active]
        exact .relinks _ _ fires outgoing active (fun _ => rfl) rfl
      · rw [linkFailed_true_of_not_active active]
        exact .expires fires fun _ => active
    · rename_i incoming
      exact .expires fires fun outgoing => absurd outgoing incoming
  · rename_i quiet
    have rest := keeps_clockRest ({ h with toLinkHandler := h.clock ms } : DExtraHandler n) g callsign
    exact .rests quiet ⟨rest.info, rest.link, rest.calls⟩

end DExtraHandler

namespace DCSHandler

variable {n : Nat} (h : DCSHandler n) (g : GroupHandler)

theorem openStream_linkInfo (env : Env) (data : AMBEData) :
    (h.openStream env data g).1.linkInfo = g.linkInfo := by
  unfold openStream
  split
  · exact g.linkInfo_processReflectorHeader env _
  · rfl

theorem openStream_link (env : Env) (data : AMBEData) (protocol : DStarProtocol) :
    (h.openStream env data g).2.1.link protocol = h.link protocol := by
  unfold openStream
  split <;> rfl

theorem repeatHeader_linkInfo (env : Env) (data : AMBEData) :
    (repeatHeader env data g).1.linkInfo = g.linkInfo := by
  unfold repeatHeader
  split
  · exact g.linkInfo_processReflectorHeader env _
  · rfl

theorem keeps_processAMBE (env : Env) (data : AMBEData) :
    Keeps DCSHandler.toLinkHandler h g (h.processAMBE env data g) := by
  have info := h.openStream_linkInfo g env data
  have link := h.openStream_link g env data
  have voice (c : ConnectData) (outs : List Output) (called : .connect c ∈ outs.map HandlerOutput.group) :
      c.type = .link1 → h.linkState = .linking := absurd called (connect_not_mem_group c outs)
  unfold processAMBE
  dsimp only
  split
  · exact .refl _ h g
  · split
    · exact .refl _ h g
    · split
      · exact .refl _ h g
      · split
        · refine ⟨?_, ⟨_, rfl, fun protocol => ?_⟩, fun c => voice c _⟩
          · rw [GroupHandler.linkInfo_processReflectorAMBE, repeatHeader_linkInfo, info]
          · rw [← link protocol]
            split <;> rfl
        · exact ⟨info, ⟨_, rfl, link⟩, fun c => voice c _⟩

theorem keeps_processPoll (poll : PollData) :
    Keeps DCSHandler.toLinkHandler h g (h.processPoll poll g) := by
  refine ⟨rfl, ⟨_, rfl, fun _ => rfl⟩, ?_⟩
  intro c called
  unfold processPoll at called
  dsimp only at called
  split at called <;> simp at called

theorem keeps_writeHeader (group : Fin n) (header : HeaderData) (direction : Direction) :
    Keeps DCSHandler.toLinkHandler h g (h.writeHeader group header direction g) := by
  unfold writeHeader
  split
  · exact ⟨rfl, ⟨_, rfl, fun _ => rfl⟩, by simp⟩
  · exact .refl _ h g

theorem keeps_writeAMBE (group : Fin n) (data : AMBEData) (direction : Direction) :
    Keeps DCSHandler.toLinkHandler h g (h.writeAMBE group data direction g) := by
  unfold writeAMBE
  split
  · exact ⟨rfl, ⟨_, rfl, fun _ => rfl⟩, by simp⟩
  · exact .refl _ h g

theorem clockInactivity_link (protocol : DStarProtocol) :
    h.clockInactivity.link protocol = h.link protocol := by
  unfold clockInactivity
  split <;> rfl

theorem clockPoll_link (protocol : DStarProtocol) :
    h.clockPoll.1.link protocol = h.link protocol := by
  unfold clockPoll
  split <;> rfl

theorem clockTry_link (protocol : DStarProtocol) :
    h.clockTry.1.link protocol = h.link protocol := by
  unfold clockTry
  split
  · split <;> rfl
  · rfl

theorem clockPoll_calls (c : ConnectData) : .connect c ∉ h.clockPoll.2 := by
  unfold clockPoll
  split <;> simp

/-- A retry of an unlinking handler is a `CT_UNLINK`. -/
theorem clockTry_calls {c : ConnectData} (called : .connect c ∈ h.clockTry.2)
    (type : c.type = .link1) : h.linkState = .linking := by
  unfold clockTry at called
  split at called
  · split at called
    · assumption
    · rw [List.mem_singleton] at called
      cases called
      cases type
    · cases called
  · cases called

theorem keeps_clockRest :
    Keeps DCSHandler.toLinkHandler h g (g, some h.clockRest.1, h.clockRest.2) := by
  have before (protocol : DStarProtocol) :
      h.clockInactivity.clockPoll.1.link protocol = h.link protocol := by
    rw [clockPoll_link, clockInactivity_link]
  refine ⟨rfl, ⟨_, rfl, fun protocol => ?_⟩, fun c called type => ?_⟩
  · exact (clockTry_link _ protocol).trans (before protocol)
  · rcases List.mem_append.mp called with polled | tried
    · exact absurd polled (clockPoll_calls _ c)
    · exact (congrArg Link.state (before .dcs)).symm.trans (clockTry_calls _ tried type)

theorem clockInt_case (ms : Nat) :
    HandlerClockCase DCSHandler.toLinkHandler ms h g (h.clockInt ms g) := by
  unfold clockInt
  dsimp only
  split
  · rename_i fires
    split
    · rename_i outgoing
      by_cases active : GroupHandler.LinkActive g.linkStatus
      · rw [linkFailed_true_of_active active]
        exact .relinks _ _ fires outgoing active (fun _ => rfl) rfl
      · rw [linkFailed_true_of_not_active active]
        exact .expires fires fun _ => active
    · rename_i incoming
      exact .expires fires fun outgoing => absurd outgoing incoming
  · rename_i quiet
    have rest := keeps_clockRest ({ h with toLinkHandler := h.clock ms } : DCSHandler n) g
    exact .rests quiet ⟨rest.info, rest.link, rest.calls⟩

end DCSHandler
end SmartGroup
