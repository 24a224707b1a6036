import SmartGroup.Group.Sent

/-! A receive-only group: the subscribers hear the reflector and nobody else. -/
namespace SmartGroup
open Bytes Sweep Machine

namespace GroupHandler

/-- The packet is made of the reflector's packet that this step takes, or is the
group's own text behind the reflector's header. -/
def FromReflector : GroupEntry → Output → Prop
  | ⟨_, .reflectorHeader env header, _, g'⟩, o =>
      o ∈ g'.sendToRepeaters env (header.setCQCQCQ.setFlags 0x00 0x00 0x00) ∨ o ∈ g'.sendFromText env
  | ⟨g, .reflectorAMBE env data, _, _⟩, o => o ∈ g.sendAMBEToRepeaters env data
  | _, _ => False

/-- The packet acknowledges a login or logoff to the owner of the pending id. -/
def Acknowledges : GroupEntry → Output → Prop
  | ⟨g, .clock env _, _, _⟩, o => ∃ k i tx u irc text, g.Pending k tx ∧
      g.users.heap.cell tx.user = some u ∧ o ∈ g.sendAck env i irc u.callsign text (env.rand k)
  | _, _ => False

/-- Where the packets of a step come from while the group only listens. -/
theorem Sent.listening {g g' : GroupHandler} {e : GroupEvent} {outs : List Output} {o : Output}
    (sent : Sent g g' e o) (only : g.listenOnly = true) :
    ¬o.ToReflector ∧
      (o.ToSubscribers → FromReflector ⟨g, e, outs, g'⟩ o ∨ Acknowledges ⟨g, e, outs, g'⟩ o) := by
  constructor
  · intro link
    rcases sent.to_link link with ⟨-, header, -, -, -, tells, -⟩ | ⟨-, data, -, linked, -⟩
    · exact tells.2.2 only
    · exact linked.2.2.1 only
  · intro packet
    cases sent with
    | book _ _ book => exact absurd packet book.no_packet.1
    | opened env header _ _ _ _ talks _ => exact absurd only talks
    | voice env data _ tx _ _ _ talks _ => exact absurd only talks
    | reflectorHeader env header _ _ sent => exact .inl sent
    | reflectorAMBE env data _ _ _ sent => exact .inl sent
    | report env ms k i tx u irc text _ pending owner sent =>
        rcases sent with rfl | acked
        · exact packet.elim
        · exact .inr ⟨k, i, tx, u, irc, text, pending, owner, acked⟩

/-- A receive-only group hands nothing to the reflector, and its subscribers get what
the reflector sends and their own acknowledgements. -/
theorem receive_only {c : Config} {tr : List GroupEntry} {g : GroupHandler} (run : GroupRun c tr g)
    (only : c.listenOnly = true) : ∀ x ∈ tr, ∀ o ∈ x.outs,
      ¬o.ToReflector ∧ (o.ToSubscribers → FromReflector x o ∨ Acknowledges x o) := by
  intro x member o sent
  obtain ⟨taken, before, -, reached⟩ := run.entry member
  have listens : x.pre.listenOnly = c.listenOnly := congrArg Settings.listenOnly (GroupRun.settings reached)
  exact (step_sends taken sent).listening (listens.trans only)

section
open Sample

/-- A user of the group talks under the id of the reflector's stream. -/
theorem same_id_receive_only : ∃ tr g, GroupRun { config with listenOnly := true } tr g ∧
    tr.length = 7 ∧ (∃ x ∈ tr, ∃ o ∈ x.outs, o.ToSubscribers) ∧ ∀ x ∈ tr, ∀ o ∈ x.outs,
      ¬o.ToReflector ∧ (o.ToSubscribers → FromReflector x o ∨ Acknowledges x o) := by
  obtain ⟨tr, g, run, accepted⟩ := exists_run_of_accepts step
    (init { config with listenOnly := true })
    [.g2Header knownEnv (call userA smart 1), .g2AMBE knownEnv (lastFrame 1),
      .reflectorHeader knownEnv (call userB smart 5), .g2Header knownEnv (call userA smart 5),
      .g2AMBE knownEnv (frame 5), .reflectorAMBE knownEnv (frame 5), .clock knownEnv 4500]
    (fun tr _ => decide (tr.length = 7 ∧ ∃ (x : GroupEntry), x ∈ tr ∧
      Output.relayAMBE (frame 5) ∈ x.outs)) (by decide +kernel)
  obtain ⟨length, x, member, sent⟩ := of_decide_eq_true accepted
  exact ⟨tr, g, run, length, ⟨x, member, _, sent, trivial⟩, receive_only run rfl⟩

end

end GroupHandler
end SmartGroup
