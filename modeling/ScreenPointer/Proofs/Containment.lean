/-
# Where the pointer can be

Placing and moving clamp the pointer and starting over centres it, so it is inside
the bounds.  A viewport of the same panel that replaces another one does neither:
the pointer stays where it was, or turns with the panel, and may be left outside
until it is moved again.  Between views of a whole device nothing ever leaves the
pointer outside.
-/

import ScreenPointer.Proofs.Display.Bounds
import ScreenPointer.Proofs.Layout

namespace ScreenPointer

namespace Session

variable {now : Nanos} {connected : Bool} {catalogue : Catalogue}

/-! ## Inside -/

def Inside (s : Session) : Prop := ∀ g, s.host.layout? = some g → g.1.Admits g.2

/-- The step replaces the viewport by another one of the same panel, and the pointer,
which stays or turns with the panel, is outside of it. -/
def Strands (s : Session) (step : Step) : Prop :=
  ∃ c v, s.host.controller = some c ∧ s.installs? step = some v ∧ c.viewport ≠ v ∧
    c.viewport.changeTo v ≠ .reset ∧ ¬ v.Admits (c.viewport.moved v c.pointer.position)

/-- A step of the run has stranded the pointer, and none has moved it since. -/
def LeavesStranded (s : Session) (steps : List Step) : Prop :=
  ∃ earlier step later, steps = earlier ++ step :: later ∧ (s.run earlier).Strands step ∧
    ∀ middle, middle <+: later →
      (s.run (earlier ++ step :: middle)).host.layout? =
        (s.run (earlier ++ [step])).host.layout?

theorem inside_of_eq {s s' : Session} (heq : s'.host.layout? = s.host.layout?)
    (h : s.Inside) : s'.Inside := fun g hg => h g (heq.symm.trans hg)

/-- Starting over centres the pointer. -/
theorem admits_moved_of_reset {old new : Viewport} (hnew : new.IsShort)
    (hreset : old.changeTo new = .reset) (p : Point) : new.Admits (old.moved new p) := by
  simp only [Viewport.moved, hreset]
  cases hbounds : new.bounds? with
  | some b => exact Viewport.admits_center hnew hbounds
  | none =>
      intro b hb
      cases hbounds.symm.trans hb

/-- A step leaves the layout alone or the pointer inside, or it strands the pointer. -/
theorem step_inside (s : Session) (step : Step) (hshort : ∀ v, s.installs? step = some v → v.IsShort) :
    (s.step step).2.host.layout? = s.host.layout? ∨ (s.step step).2.Inside ∨
      s.Strands step := by
  have hmoves := s.step_moves step
  unfold Inside
  generalize (s.step step).2.host.layout? = g at hmoves ⊢
  cases hmoves with
  | kept => exact .inl rfl
  | gone => exact .inr (.inl fun g hg => by cases hg)
  | made =>
      refine .inr (.inl fun g hg => ?_)
      cases hg
      exact Viewport.admits_of_isValid_false rfl _
  | clamped working bounds p =>
      refine .inr (.inl fun g hg => ?_)
      cases hg
      exact Viewport.admits_clamp bounds p
  | @replaced c v working installs new =>
      by_cases hadmits : v.Admits (c.viewport.moved v c.pointer.position)
      · refine .inr (.inl fun g hg => ?_)
        cases hg
        exact hadmits
      · refine .inr (.inr ⟨c, v, working, installs, new, fun hreset => hadmits ?_, hadmits⟩)
        exact admits_moved_of_reset (hshort v installs) hreset _

theorem step_installs {s : Session} {step : Step} {c : Controller} {v : Viewport}
    (hc : s.host.controller = some c) (hv : s.installs? step = some v) (hne : c.viewport ≠ v) :
    (s.step step).2.host.layout? = some (v, c.viewport.moved v c.pointer.position) := by
  obtain ⟨clock, ⟨controller, world⟩, reported⟩ := s
  cases hc
  have happly := Live.applyViewport_layout ⟨c, clock, world⟩ hne
  unfold installs? at hv
  split at hv
  · cases hv
    exact congrArg some happly
  · cases hv
    exact congrArg some happly
  · cases hv

theorem Strands.not_inside {s : Session} {step : Step} (h : s.Strands step) :
    ¬ (s.step step).2.Inside := by
  obtain ⟨c, v, hc, hv, hne, -, houtside⟩ := h
  intro hinside
  exact houtside (hinside _ (step_installs hc hv hne))

theorem exists_stranding {steps : List Step} (hsteps : ∀ step ∈ steps, step.Installs Viewport.IsShort)
    (houtside : ¬ ((blank now connected catalogue).run steps).Inside) :
    (blank now connected catalogue).LeavesStranded steps := by
  induction steps using List.reverseRecOn with
  | nil => exact absurd (fun g hg => by cases hg) houtside
  | append_singleton steps step ih =>
      have hearlier : ∀ x ∈ steps, x.Installs Viewport.IsShort := fun x hx =>
        hsteps x (List.mem_append_left _ hx)
      have hreported := run_reported (s := blank now connected catalogue)
        (fun v r hv => hv.rotated r) Viewport.isShort_unset hearlier
      rcases step_inside _ step fun v hv =>
        of_installs (fun v r hv => hv.rotated r) hreported (hsteps step (by simp)) hv with
        hkept | hinside | hstrands
      · obtain ⟨earlier, stranding, later, rfl, hstrands, hlater⟩ := ih hearlier fun hinside =>
          houtside (by rw [run_concat]; exact inside_of_eq hkept hinside)
        refine ⟨earlier, stranding, later ++ [step], by simp, hstrands, fun middle hmiddle => ?_⟩
        rcases List.prefix_concat_iff.mp hmiddle with rfl | hprefix
        · rw [← hlater later (List.prefix_refl _), ← hkept, ← run_concat]
          simp
        · exact hlater middle hprefix
      · rw [run_concat] at houtside
        exact absurd hinside houtside
      · refine ⟨steps, step, [], rfl, hstrands, fun middle hmiddle => ?_⟩
        rw [List.prefix_nil.mp hmiddle]

theorem LeavesStranded.not_inside {s : Session} {steps : List Step} (h : s.LeavesStranded steps) :
    ¬ (s.run steps).Inside := by
  obtain ⟨earlier, step, later, rfl, hstrands, hlater⟩ := h
  intro hinside
  have hstranded := inside_of_eq (hlater later (List.prefix_refl _)).symm hinside
  rw [run_concat] at hstranded
  exact hstrands.not_inside hstranded

/-- Between views of a whole device, replacing a viewport never strands the pointer. -/
theorem admits_moved {old new : Viewport} {p : Point} (hold : old.FramesDevice)
    (hnew : new.FramesDevice) (hshort : new.IsShort) (hne : old ≠ new) (h : old.Admits p) :
    new.Admits (old.moved new p) := by
  cases hchange : old.changeTo new with
  | reset => exact admits_moved_of_reset hshort hchange p
  | reorient =>
      simp only [Viewport.moved, hchange]
      exact Viewport.admits_carry hold hnew hchange h
  | unchanged => exact absurd (hold.eq_of_unchanged hnew hchange) hne

/-- A view of a whole device with the pointer inside. -/
def Framed (s : Session) : Prop :=
  ∀ g, s.host.layout? = some g → g.1.FramesDevice ∧ g.1.Admits g.2

theorem framed_law : LayoutLaw (fun v => v.IsShort ∧ v.FramesDevice)
    fun v p => v.FramesDevice ∧ v.Admits p where
  turned _ r h := ⟨h.1.rotated r, h.2.rotated r⟩
  unset := ⟨Viewport.isShort_unset, Viewport.framesDevice_unset⟩
  made := ⟨Viewport.framesDevice_unset, Viewport.admits_of_isValid_false rfl _⟩
  clamped _ _ p hbounds := fun ⟨_, hframes, _⟩ => ⟨hframes, Viewport.admits_clamp hbounds p⟩
  replaced _ _ _ hnew hne := fun ⟨hframes, hadmits⟩ =>
    ⟨hnew.2, admits_moved hframes hnew.2 hnew.1 hne hadmits⟩

theorem run_framed {steps : List Step} (hsteps : ∀ step ∈ steps, step.Installs Viewport.IsShort)
    (hframes : ∀ step ∈ steps, step.Installs Viewport.FramesDevice) :
    ((blank now connected catalogue).run steps).Framed :=
  framed_law.run fun step hstep => (hsteps step hstep).and (hframes step hstep)

/-- In every state of every run the pointer is inside the bounds of its viewport, unless
a replacement of the viewport by another one of the same panel has stranded it and it has
not moved since.  In a run whose viewports show whole devices it is always inside. -/
theorem pointer_inside_unless_stranded (now : Nanos) (connected : Bool) (catalogue : Catalogue)
    {steps : List Step} (hsteps : ∀ step ∈ steps, step.Installs Viewport.IsShort) :
    (((blank now connected catalogue).run steps).Inside ↔
      ¬ (blank now connected catalogue).LeavesStranded steps) ∧
      ((∀ step ∈ steps, step.Installs Viewport.FramesDevice) →
        ((blank now connected catalogue).run steps).Inside) := by
  refine ⟨⟨fun hinside hstranded => hstranded.not_inside hinside, fun hnot => ?_⟩,
    fun hframes g hg => (run_framed hsteps hframes g hg).2⟩
  by_contra houtside
  exact hnot (exists_stranding hsteps houtside)

/-- A pointer in the corner of a display is inside after the display was turned. -/
theorem pointer_inside_after_turn :
    ((blank 0 true .plain).run
      [.create {}, .command (.setViewport (.whole .builtin 100 50)),
        .command (.place ⟨99, 200⟩), .rotate .quarter]).Inside := by
  have hshort : (Viewport.whole .builtin 100 50).IsShort := by
    refine ⟨?_, ?_, ?_, ?_, ?_, ?_⟩ <;> decide
  have hframes : (Viewport.whole .builtin 100 50).FramesDevice := by
    refine ⟨rfl, rfl, rfl, rfl, ?_, ?_⟩ <;> decide
  refine (pointer_inside_unless_stranded 0 true .plain ?_).2 ?_
  · simpa [Step.Installs] using hshort
  · simpa [Step.Installs] using hframes

/-- A pointer in the corner of a display is outside after the logical rectangle, and
nothing else, has shrunk. -/
theorem pointer_left_outside_by_shrinking :
    let s := (blank 0 true .plain).run
      [.create {}, .command (.setViewport ⟨.builtin, .upright, 0, 0, 100, 100, 100, 100⟩),
        .command (.place ⟨99, 99⟩),
        .command (.setViewport ⟨.builtin, .upright, 0, 0, 50, 50, 100, 100⟩)]
    s.host.layout? = some (⟨.builtin, .upright, 0, 0, 50, 50, 100, 100⟩, ⟨99, 99⟩) ∧
      ¬ s.Inside := by
  intro s
  have hlayout : s.host.layout? =
      some (⟨.builtin, .upright, 0, 0, 50, 50, 100, 100⟩, ⟨99, 99⟩) := by decide +kernel
  refine ⟨hlayout, fun hinside => ?_⟩
  have hcontains := hinside _ hlayout _ rfl (by decide) (by decide)
  exact absurd hcontains (by decide +kernel)

end Session

end ScreenPointer
