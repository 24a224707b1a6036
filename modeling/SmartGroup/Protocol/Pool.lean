import SmartGroup.Protocol.DCS
import SmartGroup.Protocol.DExtra
import SmartGroup.Support.Cursor

/-! `CDExtraProtocolHandlerPool` and `CSGSThread::processDExtra`, which reads the sockets of
the pool until they have no more packets. Processing a packet may take handlers out of it. -/
namespace SmartGroup
open Bytes Cursor

inductive DExtraData where
  | header (header : HeaderData)
  | ambe (data : AMBEData)
  | poll (poll : PollData)
  | connect (connect : ConnectData)
  deriving DecidableEq, Repr

/-- A handler and the datagrams that wait at its socket. -/
structure PoolMember where
  handler : DExtraProtocolHandler
  queue : List Datagram

namespace DExtraProtocolHandler

/-- `read`, with the datagrams that wait. -/
def read (h : DExtraProtocolHandler) : List Datagram → Try PoolMember
  | [] => do
      let (_, h) ← h.readPackets none
      return ⟨h, []⟩
  | d :: queue => do
      let (again, h) ← h.readPackets (some d)
      if again then read h queue else return ⟨h, queue⟩

/-- The packet of the type. -/
def newPacket (h : DExtraProtocolHandler) : DExtraType → Try (Option DExtraData)
  | .none => return none
  | .header => return (← h.newHeader).map .header
  | .ambe => return (← h.newAMBE).map .ambe
  | .poll => return (← h.newPoll).map .poll
  | .connect => return (← h.newConnect).map .connect

/-- What the handler decodes of its datagrams, one after the other. -/
def packets (h : DExtraProtocolHandler) : List Datagram → Try (List (Option DExtraData))
  | [] => return []
  | d :: queue => do
      let (_, h) ← h.readPackets (some d)
      if h.type = .none then packets h queue
      else
        let packet ← h.newPacket h.type
        let rest ← packets h queue
        return packet :: rest

end DExtraProtocolHandler

/-! One socket. -/

namespace DExtraProtocolHandler

/-- No empty datagram stands before another, no poll and no link packet has the source port
zero, and polls have an end. -/
def Readable (buffer : Buffer dextraBufferLength) : List Datagram → Prop
  | [] => True
  | d :: queue =>
      let received := buffer.receive d.bytes
      let type := typeOf received.bytes (min d.bytes.length dextraBufferLength)
      if d.bytes = [] then queue = []
      else (type = .poll → 0 < d.port ∧ 0 ∈ received.bytes) ∧ (type = .connect → 0 < d.port) ∧
        Readable received queue

instance decidableReadable (buffer : Buffer dextraBufferLength) :
    ∀ queue, Decidable (Readable buffer queue)
  | [] => isTrue trivial
  | d :: queue =>
      have := decidableReadable (buffer.receive d.bytes) queue
      inferInstanceAs (Decidable (ite _ _ _))

end DExtraProtocolHandler

theorem PollData.completes_setDExtraData (p : PollData) {mem : List UInt8} (long : 9 ≤ mem.length)
    (address : Str) (port myPort : Nat) :
    Completes (p.setDExtraData mem 9 address port myPort) ↔ 0 < port ∧ 0 ∈ mem := by
  have last : byte mem longCallsignLength = .ok mem[8] := byte_ok (show 8 < mem.length by omega)
  by_cases known : 0 < port
  · by_cases ends : 0 ∈ mem
    · simp [setDExtraData, require, known, cstring, ends, last, bind, Except.bind, pure, Except.pure]
    · simp [setDExtraData, require, known, cstring, ends, bind, Except.bind]
  · simp [setDExtraData, require, known, bind, Except.bind]

theorem ConnectData.completes_setDExtraData (c : ConnectData) {mem : List UInt8} (long : 13 ≤ mem.length)
    {length : Nat} (address : Str) (port myPort : Nat) (enough : 11 ≤ length) :
    Completes (c.setDExtraData mem length address port myPort) ↔ 0 < port := by
  by_cases known : 0 < port
  · obtain ⟨repeater, read⟩ := completes_callsign mem 0 longCallsignLength
      (by simp only [longCallsignLength]; omega) (by simp only [longCallsignLength]; omega)
    have band : byte mem (longCallsignLength + 1) = .ok mem[9] := byte_ok (show 9 < mem.length by omega)
    obtain ⟨type, answered⟩ := completes_answer long
    simp only [setDExtraData, require, enough, known, decide_true, if_true, read, band, answered, ok_bind,
      iff_true]
    split
    · exact completes_ok _
    · split <;> exact completes_ok _
  · simp [setDExtraData, require, known, enough, bind, Except.bind]

namespace DExtraProtocolHandler

theorem completes_newPacket {h : DExtraProtocolHandler} (typed : typeOf h.buffer.bytes h.length = h.type) :
    Completes (h.newPacket h.type) ↔
      (h.type = .poll → 0 < h.yourPort ∧ 0 ∈ h.buffer.bytes) ∧ (h.type = .connect → 0 < h.yourPort) := by
  have full := h.buffer.full
  simp only [dextraBufferLength] at full
  obtain ⟨header, ambe, poll, connect⟩ := length_of_typeOf typed
  have through {α : Type} {t : Try (Option α)} (f : α → DExtraData) :
      Completes (do return (← t).map f : Try (Option DExtraData)) ↔ Completes t :=
    (completes_then fun _ => iff_of_true (completes_pure _) trivial).trans (and_iff_left trivial)
  cases type : h.type with
  | none => simp [newPacket]
  | header =>
      have long : 56 ≤ h.buffer.bytes.length := by omega
      obtain ⟨r, read⟩ := (HeaderData.blank.completes_setG2Data long h.length h.yourAddress
        h.yourPort).mpr (header type).ge
      simp only [newPacket, newHeader, type, ne_eq, not_true_eq_false, if_false, HeaderData.setDExtraData,
        HeaderData.setG2DataChecked, read, ok_bind, Bool.false_eq_true]
      simp [pure, Except.pure, bind, Except.bind]
  | ambe =>
      have long : 27 ≤ h.buffer.bytes.length := by omega
      obtain ⟨r, read⟩ := (AMBEData.blank.completes_setG2Data long h.length h.yourAddress
        h.yourPort).mpr (ambe type).ge
      simp only [newPacket, newAMBE, type, ne_eq, not_true_eq_false, if_false, AMBEData.setDExtraData,
        read, ok_bind]
      simp [pure, Except.pure, bind, Except.bind]
  | poll =>
      simp only [newPacket, newPoll, type, ne_eq, not_true_eq_false, if_false]
      rw [through, completes_then fun _ => iff_of_true (completes_pure _) trivial, and_iff_left trivial,
        poll type, PollData.completes_setDExtraData _ (by omega)]
      simp
  | connect =>
      simp only [newPacket, newConnect, type, ne_eq, not_true_eq_false, if_false]
      rw [through, ConnectData.completes_setDExtraData _ (by omega) _ _ _
        (by rcases connect type with short | long <;> omega)]
      simp

/-- What `read` leaves where it finds no packet. -/
structure Exhausted (h : DExtraProtocolHandler) (queue : List Datagram) (m : PoolMember) : Prop where
  type : m.handler.type = .none
  fewer : m.queue.length ≤ queue.length
  readable : Readable h.buffer queue ↔ m.queue = []
  packets : m.queue = [] → h.packets queue = .ok []

/-- What it leaves where it finds one. -/
structure Found (h : DExtraProtocolHandler) (queue : List Datagram) (m : PoolMember) : Prop where
  type : m.handler.type ≠ .none
  fewer : m.queue.length < queue.length
  readable : Readable h.buffer queue ↔
    Completes (m.handler.newPacket m.handler.type) ∧ Readable m.handler.buffer m.queue
  packets : h.packets queue = do
    let packet ← m.handler.newPacket m.handler.type
    let rest ← m.handler.packets m.queue
    return packet :: rest

/-- An empty datagram ends the loop as an empty socket does. -/
theorem read_cases (h : DExtraProtocolHandler) (queue : List Datagram) :
    ∃ m, h.read queue = .ok m ∧ (h.Exhausted queue m ∨ h.Found queue m) := by
  induction queue generalizing h with
  | nil => exact ⟨_, rfl, .inl ⟨rfl, Nat.le_refl _, iff_of_true trivial rfl, fun _ => rfl⟩⟩
  | cons d queue ih =>
      by_cases empty : d.bytes = []
      · have skipped : h.readPackets (some d) = .ok (false, { h with type := .none }) := if_pos empty
        refine ⟨⟨{ h with type := .none }, queue⟩, by rw [read, skipped]; rfl, .inl ⟨rfl, Nat.le_succ _, ?_, ?_⟩⟩
        · rw [Readable, if_pos empty]
        · intro last
          rw [packets, skipped, show queue = [] from last]
          rfl
      · obtain ⟨h', taken, type, buffer, length, -, port, -⟩ := h.readPackets_some empty
        have readable : Readable h.buffer (d :: queue) ↔
            (h'.type = .poll → 0 < h'.yourPort ∧ 0 ∈ h'.buffer.bytes) ∧
              (h'.type = .connect → 0 < h'.yourPort) ∧ Readable h'.buffer queue := by
          rw [Readable, if_neg empty, ← type, ← buffer, ← port]
        by_cases unknown : h'.type = .none
        · obtain ⟨m, left, outcome⟩ := ih h'
          have goes_on : h.read (d :: queue) = .ok m := by
            rw [read, taken]
            simpa only [ok_bind, unknown, decide_true, if_true] using left
          have packets_on : h.packets (d :: queue) = h'.packets queue := by
            rw [packets, taken]
            simp only [ok_bind, unknown, if_true]
          have readable_on : Readable h.buffer (d :: queue) ↔ Readable h'.buffer queue := by
            rw [readable, unknown]
            simp
          refine ⟨m, goes_on, ?_⟩
          rcases outcome with ⟨none, fewer, iff, all⟩ | ⟨some, fewer, iff, all⟩
          · exact .inl ⟨none, Nat.le_succ_of_le fewer, readable_on.trans iff, packets_on ▸ all⟩
          · exact .inr ⟨some, Nat.lt_succ_of_lt fewer, readable_on.trans iff, packets_on.trans all⟩
        · have typed : typeOf h'.buffer.bytes h'.length = h'.type := by rw [type, buffer, length]
          refine ⟨⟨h', queue⟩, ?_, .inr ⟨unknown, Nat.lt_succ_self _, ?_, ?_⟩⟩
          · rw [read, taken]
            simp only [ok_bind, unknown, decide_false, Bool.false_eq_true, if_false]
            rfl
          · rw [readable, completes_newPacket typed, and_assoc]
          · rw [packets, taken]
            simp only [ok_bind, unknown, if_false]

theorem completes_packets {h : DExtraProtocolHandler} {queue : List Datagram}
    (readable : Readable h.buffer queue) : Completes (h.packets queue) := by
  induction size : queue.length using Nat.strong_induction_on generalizing h queue with
  | h size ih =>
      subst size
      obtain ⟨m, -, exhausted | found⟩ := h.read_cases queue
      · exact ⟨[], exhausted.packets (exhausted.readable.mp readable)⟩
      · obtain ⟨⟨packet, decoded⟩, later⟩ := found.readable.mp readable
        obtain ⟨rest, others⟩ := ih _ found.fewer later rfl
        refine ⟨packet :: rest, ?_⟩
        rw [found.packets, decoded, ok_bind, others]
        rfl

end DExtraProtocolHandler

/-! The pool. -/

/-- The handlers by their ports, and `m_index`. -/
structure DExtraPool where
  handlers : List (Nat × PoolMember)
  index : Option Nat
  distinct : (keys handlers).Nodup

/-- A packet that the loop has decoded: the pool at that moment, and the ones after each
release that its processing made. -/
structure PoolTurn where
  pool : DExtraPool
  packet : Option DExtraData
  released : List DExtraPool

namespace DExtraPool

/-- The pool with another handler at the port, or without it. -/
def set (p : DExtraPool) (port : Nat) (u : Option PoolMember) : DExtraPool where
  handlers := Cursor.put p.handlers port u
  index := p.index
  distinct := (keys_put p.handlers port u).nodup p.distinct

def release (p : DExtraPool) (port : Nat) : Except Misuse DExtraPool :=
  if port ∈ keys p.handlers then do
    let index ← if p.index = some port then next p.handlers p.index else .ok p.index
    return { p.set port none with index }
  else .ok p

def releaseAll (p : DExtraPool) : List Nat → Except Misuse (DExtraPool × List DExtraPool)
  | [] => .ok (p, [])
  | port :: ports => do
      let p ← p.release port
      let (q, released) ← releaseAll p ports
      return (q, p :: released)

/-- The loop of `read` from `m_index` on. -/
def readFrom : Nat → DExtraPool → Except (Stop Failure) (DExtraType × DExtraPool)
  | 0, p => if p.index = none then .ok (.none, p) else .error .endless
  | fuel + 1, p =>
      match p.index with
      | none => .ok (.none, p)
      | some port =>
          match Cursor.read p.handlers (some port) with
          | .error m => .error (.misuse m)
          | .ok member =>
              match member.handler.read member.queue with
              | .error e => .error (.fault e)
              | .ok member =>
                  let p := p.set port (some member)
                  if member.handler.type ≠ .none then .ok (member.handler.type, p)
                  else
                    match next p.handlers (some port) with
                    | .error m => .error (.misuse m)
                    | .ok index => readFrom fuel { p with index }

def read (p : DExtraPool) : Except (Stop Failure) (DExtraType × DExtraPool) :=
  let p := if p.index = none then { p with index := first p.handlers } else p
  readFrom p.handlers.length p

def newPacket (p : DExtraPool) (type : DExtraType) : Except (Stop Failure) (Option DExtraData) :=
  match Cursor.read p.handlers p.index with
  | .error m => .error (.misuse m)
  | .ok member =>
      match member.handler.newPacket type with
      | .error e => .error (.fault e)
      | .ok packet => .ok packet

variable {σ : Type}

/-- `processDExtra`; `process` gives the handlers that the processing of a packet releases. -/
def processDExtra (process : σ → DExtraData → σ × List Nat) :
    Nat → σ → DExtraPool → Except (Stop Failure) (σ × DExtraPool × List PoolTurn)
  | 0, _, _ => .error .endless
  | fuel + 1, s, p =>
      match p.read with
      | .error e => .error e
      | .ok (type, p₁) =>
          if type = .none then .ok (s, p₁, [])
          else
            match p₁.newPacket type with
            | .error e => .error e
            | .ok packet =>
                let processed := packet.elim (s, []) (process s)
                match p₁.releaseAll processed.2 with
                | .error m => .error (.misuse m)
                | .ok (p₂, released) =>
                    match processDExtra process fuel processed.1 p₂ with
                    | .error e => .error e
                    | .ok (s', p', turns) => .ok (s', p', ⟨p₁, packet, released⟩ :: turns)

end DExtraPool
end SmartGroup
