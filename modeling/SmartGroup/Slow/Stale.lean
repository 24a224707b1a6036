import SmartGroup.Slow.Complete

/-! Whether the interleaved array that is kept is the one that the sources make now: setting
a source drops the array, clearing one does not. -/
namespace SmartGroup
open Bytes Blocks Outcome

namespace SlowEncoder

/-- The call clears a source that is set. -/
def Clears : SlowEncoder → SlowCall → Prop
  | e, .clearTextData => e.textData ≠ .null
  | e, .clearHeaderData => e.headerData ≠ .null
  | e, .clearGPSData => e.gpsData ≠ .null
  | _, _ => False

/-- A source has been cleared since the array was made. -/
def Stale (tr : List (Machine.Entry SlowEncoder SlowCall SlowAnswer)) : Prop :=
  Machine.Since (fun x => Clears x.pre x.event ∧ x.post.interleavedData ≠ .null)
    (fun x => x.post.interleavedData = .null) tr

/-- What a call does to the sources and to the interleaved array. -/
inductive Change (e : SlowEncoder) (call : SlowCall) (e' : SlowEncoder) : Prop where
  | dropped (null : e'.interleavedData = .null)
  | kept (other : ¬e.Clears call) (same : e'.SameSources e) (array : e'.interleavedData = e.interleavedData)
  | made (b : Str) (other : ¬e.Clears call) (same : e'.SameSources e) (null : e.interleavedData = .null)
      (array : e'.interleavedData = .owned b) (built : e.interleave = .ok b)
  | cleared (clears : e.Clears call) (within : e'.Within e) (fewer : ¬e'.SameSources e)
      (array : e'.interleavedData = e.interleavedData)

variable {e e' : SlowEncoder}

theorem quiet_ok {t : SlowTry SlowEncoder} {o : List SlowAnswer} (done : quiet t = .ok (e', o)) : t = .ok e' := by
  obtain ⟨e₁, ran, last⟩ := slow_bind_eq_ok.mp done
  cases last
  exact ran

theorem framed_ok {t : SlowTry (Str × SlowEncoder)} {o : List SlowAnswer} (done : framed t = .ok (e', o)) :
    ∃ data, t = .ok (data, e') := by
  obtain ⟨⟨data, e₁⟩, ran, last⟩ := slow_bind_eq_ok.mp done
  cases last
  exact ⟨data, ran⟩

theorem SameSources.refl (e : SlowEncoder) : e.SameSources e := ⟨rfl, rfl, rfl, rfl, rfl⟩

/-! The calls. -/

theorem setTextData_change {text : Str} (sound : e.Sound) (done : e.setTextData text = .ok e') :
    e'.interleavedData = .null := by
  have filled : e.uninterleaved.textData.fill (SlowDataEncoder.blockOf text) =
      .ok (.owned (SlowDataEncoder.blockOf text)) := Pointer.fill_ok sound.text_live _
  rw [setTextData, clearInterleavedData_ok sound.interleaved_live, slow_bind, filled, slow_bind] at done
  cases done
  rfl

theorem setHeaderData_change {h : HeaderData} (sound : e.Sound) (done : e.setHeaderData h = .ok e') :
    e'.interleavedData = .null := by
  rw [setHeaderData, clearInterleavedData_ok sound.interleaved_live, slow_bind] at done
  obtain ⟨bytes, -, rest⟩ := slow_bind_eq_ok.mp done
  obtain ⟨headerData, -, last⟩ := slow_bind_eq_ok.mp rest
  cases last
  rfl

theorem setGPSData_change {s : Str} (done : e.setGPSData s = .ok e') : e'.interleavedData = .null := by
  obtain ⟨interleaved, live⟩ := live_of_setGPSData done
  by_cases none : s = []
  · rw [none, setGPSData_nil interleaved live] at done
    cases done
    rfl
  · rw [setGPSData_some none interleaved live] at done
    obtain ⟨data, -, last⟩ := slow_bind_eq_ok.mp done
    cases last
    rfl

theorem reset_change (done : e.reset = .ok e') : e'.interleavedData = .null := by
  obtain ⟨e₁, -, rest⟩ := slow_bind_eq_ok.mp done
  obtain ⟨e₂, -, rest⟩ := slow_bind_eq_ok.mp rest
  obtain ⟨e₃, -, rest⟩ := slow_bind_eq_ok.mp rest
  have live : e₃.interleavedData ≠ .freed := by
    intro freed
    rw [clearInterleavedData, freed] at rest
    cases rest
  rw [clearInterleavedData_ok live] at rest
  cases rest
  rfl

/-- A source is set before it is cleared, or the call does nothing. -/
theorem clear_change {call : SlowCall} {source : Pointer} (clears : e.Clears call ↔ source ≠ .null)
    (within : e'.Within e) (array : e'.interleavedData = e.interleavedData)
    (same : source = .null → e'.SameSources e) (fewer : source ≠ .null → ¬e'.SameSources e) : Change e call e' := by
  by_cases null : source = .null
  · exact .kept (fun set => clears.mp set null) (same null) array
  · exact .cleared (clears.mpr null) within (fewer null) array

theorem clearTextData_change (sound : e.Sound) (done : e.clearTextData = .ok e') : Change e .clearTextData e' := by
  rw [clearTextData_ok sound.text_live] at done
  cases done
  exact clear_change Iff.rfl ⟨.inl rfl, .inr rfl, .inr rfl, rfl, rfl⟩ rfl
    (fun null => ⟨null.symm, rfl, rfl, rfl, rfl⟩) fun set same => set same.text.symm

theorem clearHeaderData_change (sound : e.Sound) (done : e.clearHeaderData = .ok e') :
    Change e .clearHeaderData e' := by
  rw [clearHeaderData_ok sound.header_live] at done
  cases done
  exact clear_change Iff.rfl ⟨.inr rfl, .inl rfl, .inr rfl, rfl, rfl⟩ rfl
    (fun null => ⟨rfl, rfl, null.symm, rfl, rfl⟩) fun set same => set same.header.symm

theorem clearGPSData_change (sound : e.Sound) (done : e.clearGPSData = .ok e') : Change e .clearGPSData e' := by
  have live : e.gpsData ≠ .freed := (exactly_iff.mp (clearGPSData_exactly sound)).1.mp ⟨e', done⟩
  rw [clearGPSData_ok live] at done
  cases done
  exact clear_change Iff.rfl ⟨.inr rfl, .inr rfl, .inl ⟨rfl, live⟩, rfl, rfl⟩ rfl
    (fun null => ⟨rfl, null.symm, rfl, rfl, rfl⟩) fun set same => set same.gps.symm

/-- A read from one of the sources moves its position only. -/
theorem getInterleavedData_single (single : e.Single) : e.getInterleavedData = e.getTextData ∨
    e.getInterleavedData = e.getGPSData ∨ e.getInterleavedData = e.getHeaderData := by
  unfold getInterleavedData
  split
  · exact .inl rfl
  · rename_i other
    split
    · exact .inr (.inl rfl)
    · rename_i other'
      exact .inr (.inr (if_pos ((single.resolve_left other).resolve_left other')))

theorem getInterleavedData_change {data : Str} (sound : e.Sound) (done : e.getInterleavedData = .ok (data, e')) :
    Change e .getInterleavedData e' := by
  by_cases single : e.Single
  · rcases getInterleavedData_single single with same | same | same <;> rw [same] at done
    all_goals
      obtain ⟨r, -, last⟩ := slow_bind_eq_ok.mp done
      cases last
      exact .kept id ⟨rfl, rfl, rfl, rfl, rfl⟩ rfl
  · obtain null | ⟨b, -, owned, -⟩ := sound.interleaved
    · rw [getInterleavedData_null single null] at done
      obtain ⟨b, built, rest⟩ := slow_bind_eq_ok.mp done
      obtain ⟨r, -, last⟩ := slow_bind_eq_ok.mp rest
      cases last
      exact .made b id ⟨rfl, rfl, rfl, rfl, rfl⟩ null rfl built
    · rw [getInterleavedData_built single owned] at done
      obtain ⟨r, -, last⟩ := slow_bind_eq_ok.mp done
      cases last
      exact .kept id ⟨rfl, rfl, rfl, rfl, rfl⟩ rfl

/-- Each call drops the array, keeps it, makes it, or clears a source behind it. -/
theorem step_change {call : SlowCall} {o : List SlowAnswer} (sound : e.Sound) (done : step e call = .ok (e', o)) :
    Change e call e' := by
  cases call with
  | setHeaderData h => exact .dropped (setHeaderData_change sound (quiet_ok done))
  | setTextData text => exact .dropped (setTextData_change sound (quiet_ok done))
  | setGPSData s => exact .dropped (setGPSData_change (quiet_ok done))
  | clearHeaderData => exact clearHeaderData_change sound (quiet_ok done)
  | clearTextData => exact clearTextData_change sound (quiet_ok done)
  | clearGPSData => exact clearGPSData_change sound (quiet_ok done)
  | clearInterleavedData =>
      have cleared := quiet_ok done
      rw [clearInterleavedData_ok sound.interleaved_live] at cleared
      cases cleared
      exact .dropped rfl
  | getHeaderData =>
      obtain ⟨data, read⟩ := framed_ok done
      obtain ⟨r, -, last⟩ := slow_bind_eq_ok.mp read
      cases last
      exact .kept id ⟨rfl, rfl, rfl, rfl, rfl⟩ rfl
  | getTextData =>
      obtain ⟨data, read⟩ := framed_ok done
      obtain ⟨r, -, last⟩ := slow_bind_eq_ok.mp read
      cases last
      exact .kept id ⟨rfl, rfl, rfl, rfl, rfl⟩ rfl
  | getGPSData =>
      obtain ⟨data, read⟩ := framed_ok done
      obtain ⟨r, -, last⟩ := slow_bind_eq_ok.mp read
      cases last
      exact .kept id ⟨rfl, rfl, rfl, rfl, rfl⟩ rfl
  | getInterleavedData =>
      obtain ⟨data, read⟩ := framed_ok done
      exact getInterleavedData_change sound read
  | getInterleavedDataLength =>
      cases done
      exact .kept id ⟨rfl, rfl, rfl, rfl, rfl⟩ rfl
  | reset => exact .dropped (reset_change (quiet_ok done))
  | sync =>
      cases done
      exact .kept id ⟨rfl, rfl, rfl, rfl, rfl⟩ rfl

/-! Runs. -/

/-- What the kept array was made of, and whether that has changed since. -/
structure Origin (tr : List (Machine.Entry SlowEncoder SlowCall SlowAnswer)) (e : SlowEncoder) : Prop where
  sound : e.Sound
  fresh : e.interleavedData = .null → ¬Stale tr
  array : ∀ b, e.interleavedData = .owned b →
    ∃ e₀, e₀.Sources ∧ e₀.interleave = .ok b ∧ e.Within e₀ ∧ (Stale tr ↔ ¬e.SameSources e₀)

theorem SameSources.trans {e₁ e₀ : SlowEncoder} (first : e.SameSources e₁) (second : e₁.SameSources e₀) : e.SameSources e₀ :=
  ⟨first.text.trans second.text, first.gps.trans second.gps, first.header.trans second.header,
    first.size.trans second.size, first.full.trans second.full⟩

theorem SameSources.symm {e₀ : SlowEncoder} (same : e.SameSources e₀) : e₀.SameSources e :=
  ⟨same.text.symm, same.gps.symm, same.header.symm, same.size.symm, same.full.symm⟩

theorem SameSources.within {e₀ : SlowEncoder} (same : e.SameSources e₀) : e.Within e₀ :=
  ⟨.inr same.text, .inr same.header, .inr same.gps, same.size, same.full⟩

/-- A source that is cleared on the way stays so. -/
theorem Within.antisymm {e₁ e₀ : SlowEncoder} (first : e.Within e₁) (second : e₁.Within e₀) (same : e.SameSources e₀) :
    e.SameSources e₁ where
  text := first.text.elim (fun null => second.text.elim (fun null' => null.trans null'.symm)
    fun kept => same.text.trans kept.symm) id
  gps := by
    rcases first.gps with ⟨null, -⟩ | kept
    · rcases second.gps with ⟨null', -⟩ | kept
      · exact null.trans null'.symm
      · exact same.gps.trans kept.symm
    · exact kept
  header := first.header.elim (fun null => second.header.elim (fun null' => null.trans null'.symm)
    fun kept => same.header.trans kept.symm) id
  size := first.size
  full := first.full

theorem stale_snoc {tr : List (Machine.Entry SlowEncoder SlowCall SlowAnswer)} {call : SlowCall} {o : List SlowAnswer}
    (set : e'.interleavedData ≠ .null) : Stale (tr ++ [⟨e, call, o, e'⟩]) ↔ e.Clears call ∨ Stale tr := by
  rw [Stale, Machine.since_snoc]
  simp only [set, ne_eq, not_false_eq_true, and_true]
  rfl

/-- One call. -/
theorem Origin.next {tr : List (Machine.Entry SlowEncoder SlowCall SlowAnswer)} {call : SlowCall} {o : List SlowAnswer}
    (origin : Origin tr e) (done : step e call = .ok (e', o)) : Origin (tr ++ [⟨e, call, o, e'⟩]) e' := by
  obtain ⟨sound, fresh, array⟩ := origin
  refine ⟨(safe_of_step sound done).2, fun null => ?_, fun b owned => ?_⟩
  · rw [Stale, Machine.since_snoc]
    rintro (⟨-, set⟩ | ⟨-, going⟩)
    · exact set null
    · exact going null
  have set : e'.interleavedData ≠ .null := by
    rw [owned]
    simp
  rw [stale_snoc set]
  cases step_change sound done with
  | dropped null => exact absurd null set
  | kept other same kept =>
      obtain ⟨e₀, sources, built, within, stale⟩ := array b (kept ▸ owned)
      refine ⟨e₀, sources, built, same.within.trans within, ?_⟩
      rw [or_iff_right other, stale]
      exact not_congr ⟨fun before => same.trans before, fun after => same.symm.trans after⟩
  | made b' other same null made built =>
      obtain rfl := Pointer.owned.inj (made.symm.trans owned)
      exact ⟨e, sound.toSources, built, same.within, iff_of_false (not_or.mpr ⟨other, fresh null⟩) fun differs => differs same⟩
  | cleared clears within fewer kept =>
      obtain ⟨e₀, sources, built, before, -⟩ := array b (kept ▸ owned)
      exact ⟨e₀, sources, built, within.trans before,
        iff_of_true (.inl clears) fun same => fewer (within.antisymm before same)⟩

theorem origin {tr : List (Machine.Entry SlowEncoder SlowCall SlowAnswer)} (run : Machine.Run step new tr e) : Origin tr e :=
  run.history (C := fun _ _ => True) ⟨new_sound, fun _ => Machine.since_nil _ _, fun _ owned => absurd owned Pointer.null_ne_owned⟩
    (fun origin _ done => origin.next done) fun _ _ => trivial

theorem Origin.complete_iff {tr : List (Machine.Entry SlowEncoder SlowCall SlowAnswer)} (origin : Origin tr e)
    (two : e.TwoSet) : e.InterleavedComplete ↔ ¬Stale tr ∧ e.Suffices := by
  obtain ⟨sound, fresh, array⟩ := origin
  rw [complete_iff_reads sound two]
  obtain null | ⟨b, -, owned, -⟩ := sound.interleaved
  · have within : e.Within e := (SameSources.refl e).within
    rw [and_iff_right (fresh null)]
    constructor
    · rintro ⟨b, owned | ⟨-, built⟩, back⟩
      · exact absurd (null.symm.trans owned) (Pointer.null_ne_owned)
      · exact ((gives_back_iff sound.toSources built within two).mp back).2
    · intro enough
      obtain ⟨b, built⟩ := enough.builds sound.toSources
      exact ⟨b, .inr ⟨null, built⟩, (gives_back_iff sound.toSources built within two).mpr ⟨.refl e, enough⟩⟩
  · obtain ⟨e₀, sources, built, within, stale⟩ := array b owned
    rw [stale, not_not, ← gives_back_iff sources built within two]
    constructor
    · rintro ⟨b', owned' | ⟨null, -⟩, back⟩
      · rwa [Pointer.owned.inj (owned.symm.trans owned')]
      · exact absurd (owned.symm.trans null) (Pointer.owned_ne_null)
    · intro back
      exact ⟨b, .inl owned, back⟩

/-- The calls give back all of the array, and the array holds all of the sources, exactly
when no source has been cleared since it was made and the full size of the GPS data is
long enough. -/
theorem interleaved_complete_iff {tr : List (Machine.Entry SlowEncoder SlowCall SlowAnswer)}
    (run : Machine.Run step new tr e) (two : e.TwoSet) : e.InterleavedComplete ↔ ¬Stale tr ∧ e.Suffices :=
  (origin run).complete_iff two

theorem setGPSData_held {s : Str} (some : s ≠ []) (unwrapped : fullSize (gpsSizeOf s) ≠ 44)
    (interleaved : e.interleavedData ≠ .freed) (live : e.gpsData ≠ .freed) :
    ∃ e', e.setGPSData s = .ok e' ∧ e'.HoldsGPS s ∧ e'.textData = e.textData ∧ e'.headerData = e.headerData ∧
      e'.interleavedData = .null := by
  rw [setGPSData_some some interleaved live, fillGPS_eq unwrapped, slow_bind]
  exact ⟨_, rfl, ⟨some, unwrapped, rfl, rfl, rfl⟩, rfl, rfl, rfl⟩

theorem interleaved_complete_six : ∃ tr e, Machine.Run step new tr e ∧ e.InterleavedComplete := by
  let e₁ : SlowEncoder := { new with textData := .owned (SlowDataEncoder.blockOf []) }
  let s : Str := List.replicate 6 65
  obtain ⟨e₂, set, holds, text, header, null⟩ :=
    setGPSData_held (e := e₁) (s := s) (by decide) (by decide) Pointer.null_ne_freed Pointer.null_ne_freed
  have first : step new (.setTextData []) = .ok (e₁, []) := rfl
  have second : step e₁ (.setGPSData s) = .ok (e₂, []) := by
    rw [step, set]
    rfl
  have run := (Machine.Run.nil.snoc first).snoc second
  have text_set : e₂.textData ≠ .null := by
    rw [text]
    simp
  have fresh := (origin run).fresh null
  have sizes : e₂.gpsDataSize = 7 ∧ e₂.gpsDataFullSize = 60 := by
    rw [holds.2.2.1, holds.2.2.2.1]
    decide
  exact ⟨_, e₂, run, (interleaved_complete_iff run (.inr ⟨⟨s, holds⟩, .inl text_set⟩)).mpr
    ⟨fresh, .inl ⟨s, holds, text_set, header, by rw [sizes.1, sizes.2]; decide, by rw [sizes.1]; decide⟩⟩⟩

/-- Text and a header in a new encoder: no GPS data has ever left a full size. -/
theorem text_header_incomplete : ∃ tr e,
    Machine.exec step new [.setTextData [], .setHeaderData RadioHeader.blank] = .ok (tr, e) ∧ e.TwoSet ∧
      ¬e.InterleavedComplete := by
  let e₁ : SlowEncoder := { new with textData := .owned (SlowDataEncoder.blockOf []) }
  obtain ⟨bytes, built, -⟩ := headerBlock_blocks RadioHeader.blank
  let e₂ : SlowEncoder := { e₁ with headerData := .owned bytes }
  have first : step new (.setTextData []) = .ok (e₁, []) := rfl
  have second : step e₁ (.setHeaderData RadioHeader.blank) = .ok (e₂, []) := by
    rw [step, setHeaderData, clearInterleavedData_ok (e := e₁) Pointer.null_ne_freed, slow_bind, access_eq_ok.mpr built]
    rfl
  have run := (Machine.Run.nil.snoc first).snoc second
  have two : e₂.TwoSet := .inl ⟨Pointer.owned_ne_null, Pointer.owned_ne_null⟩
  refine ⟨[⟨new, .setTextData [], [], e₁⟩, ⟨e₁, .setHeaderData RadioHeader.blank, [], e₂⟩], e₂, ?_, two, ?_⟩
  · simp only [Machine.exec, first, second]
  · rw [(origin run).complete_iff two]
    rintro ⟨-, ⟨s, holds, -⟩ | ⟨-, -, -, room⟩⟩
    · exact absurd holds.2.2.2.2 Pointer.null_ne_owned
    · have none : e₂.gpsDataFullSize = 0 := rfl
      omega

end SlowEncoder
end SmartGroup
