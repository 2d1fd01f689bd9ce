/-
# Whole frames

Changes to sprites are made inside transactions, and only the outermost close
publishes.  Drawing spots is made of changes, makings and releases; presenting the
pointer and a tick wrap what they draw, so a nested presentation publishes nothing
of its own and a tick publishes exactly one frame, whatever it draws.
-/

import Mathlib.Algebra.GroupWithZero.Nat
import ScreenPointer.Proofs.Alert
import ScreenPointer.Proofs.Chronicle
import ScreenPointer.Proofs.Spots.Drawing

namespace ScreenPointer

namespace Surface

/-- `s'` is `s` with `n` frames more, as many transactions open and no further change
outside of one. -/
structure Publishes (n : Nat) (s s' : Surface) : Prop where
  depth : s'.depth = s.depth
  frames : s'.frames = s.frames + n
  outside : s'.mutationsOutside = s.mutationsOutside

namespace Publishes

variable {n k : Nat} {s s' s'' : Surface}

theorem refl (s : Surface) : Publishes 0 s s := ⟨rfl, rfl, rfl⟩

theorem trans (first : Publishes n s s') (second : Publishes k s' s'') :
    Publishes (n + k) s s'' where
  depth := second.depth.trans first.depth
  frames := by rw [second.frames, first.frames, Nat.add_assoc]
  outside := second.outside.trans first.outside

theorem create (h : Publishes n s s') : Publishes n s s'.create.2 :=
  ⟨h.depth, h.frames, h.outside⟩

theorem release (h : Publishes n s s') (id : SpriteId) : Publishes n s (s'.release id) := by
  unfold Surface.release
  split
  · exact h
  · exact ⟨h.depth, h.frames, h.outside⟩

theorem releaseAll (ids : List SpriteId) :
    ∀ {s' : Surface}, Publishes n s s' → Publishes n s (s'.releaseAll ids) := by
  induction ids with
  | nil => exact fun h => h
  | cons id rest ih => exact fun h => ih (h.release id)

/-- Inside a transaction drawing publishes nothing. -/
theorem drawing (hopen : s.isOpen = true) : Drawing (Publishes 0 s) where
  change s' id f h := by
    have hdepth : s'.depth ≠ 0 := by
      rw [h.depth]
      exact Nat.pos_iff_ne_zero.mp (by simpa [isOpen] using hopen)
    exact ⟨h.depth, h.frames, by simpa [Surface.change, hdepth] using h.outside⟩
  create _ h := h.create
  release _ id h := h.release id

/-- A transaction publishes what was drawn in it, unless it is part of another one. -/
theorem close (h : Publishes 0 s.openTransaction s') :
    Publishes (if s.isOpen then 0 else 1) s s'.closeTransaction := by
  have hdepth : s'.depth = s.depth + 1 := h.depth
  have hframes : s'.frames = s.frames := h.frames
  have houtside : s'.mutationsOutside = s.mutationsOutside := h.outside
  unfold closeTransaction
  cases hs : s.depth with
  | zero => simp [hdepth, hs, isOpen]; exact ⟨hs.symm, by simp [hframes], houtside⟩
  | succ d => simp [hdepth, hs, isOpen]; exact ⟨hs.symm, hframes, houtside⟩

end Publishes

/-- At most one frame, and none inside a transaction. -/
def Draws (s s' : Surface) : Prop :=
  Publishes 0 s s' ∨ (s.isOpen = false ∧ Publishes 1 s s')

/-- Between two operations: no transaction is open and nothing was changed outside of
one. -/
def Whole (s : Surface) : Prop := s.isOpen = false ∧ s.mutationsOutside = 0

variable {n : Nat} {s s' : Surface}

theorem isOpen_openTransaction (s : Surface) : s.openTransaction.isOpen = true := by
  simp [isOpen, openTransaction]

theorem Publishes.whole (h : Publishes n s s') (hs : s.Whole) : s'.Whole := by
  obtain ⟨hclosed, houtside⟩ := hs
  refine ⟨?_, h.outside.trans houtside⟩
  rw [isOpen, h.depth]
  exact hclosed

theorem Draws.publishes (h : Draws s s') : ∃ n ≤ 1, Publishes n s s' := by
  rcases h with h | ⟨-, h⟩
  · exact ⟨0, by decide, h⟩
  · exact ⟨1, by decide, h⟩

/-- What publishes at most one frame publishes none inside a transaction. -/
theorem Draws.still (h : Draws s s') (hopen : s.isOpen = true) : Publishes 0 s s' := by
  rcases h with h | ⟨hclosed, -⟩
  · exact h
  · rw [hopen] at hclosed
    cases hclosed

theorem draws_bracket (h : Publishes 0 s.openTransaction s') : Draws s s'.closeTransaction := by
  have hclose := h.close
  cases hs : s.isOpen with
  | true => exact .inl (by simpa [hs] using hclose)
  | false => exact .inr ⟨hs, by simpa [hs] using hclose⟩

end Surface

/-! ## Controllers -/

namespace Live

open Surface (Publishes Draws Whole)

@[simp]
theorem startAnimation_surface (l : Live) : l.startAnimation.world.surface = l.world.surface :=
  congrArg Scene.surface l.startAnimation_scene

@[simp]
theorem startIf_surface (l : Live) (needed : Bool) :
    (if needed then l.startAnimation else l).world.surface = l.world.surface :=
  congrArg Scene.surface (l.startIf_scene needed)

@[simp]
theorem cancelInactivity_surface (l : Live) :
    l.cancelInactivity.world.surface = l.world.surface :=
  congrArg Scene.surface l.cancelInactivity_scene

@[simp]
theorem restartInactivity_surface (l : Live) :
    l.restartInactivity.world.surface = l.world.surface :=
  congrArg Scene.surface l.restartInactivity_scene

@[simp]
theorem fadeAllSpots_surface (l : Live) : l.fadeAllSpots.world.surface = l.world.surface :=
  congrArg Scene.surface l.fadeAllSpots_scene

@[simp]
theorem loadIcons_surface (l : Live) : l.loadIcons.world.surface = l.world.surface := by
  unfold loadIcons
  split
  · dsimp only
    split <;> rfl
  · rfl

/-- Presenting the pointer publishes at most one frame. -/
theorem present_draws {l : Live} {s : Surface} (hs : l.world.surface = s) :
    Draws s l.present.world.surface := by
  subst hs
  unfold present
  split
  · rename_i sprite _ _
    have hopen := l.world.surface.isOpen_openTransaction
    have hplaced := writePlace_drawing (l := l.onSurface (·.openTransaction))
      (Publishes.drawing hopen) (.refl _) sprite
    generalize (l.onSurface (·.openTransaction)).writePlace sprite = placed at hplaced ⊢
    dsimp only
    split
    · have hwritten := writeIcon_drawing (Publishes.drawing hopen) hplaced sprite
      rw [startIf_surface]
      exact Surface.draws_bracket hwritten
    · exact Surface.draws_bracket hplaced
  · exact .inl (.refl _)

theorem place_draws (l : Live) (p : Point) : Draws l.world.surface (l.place p).world.surface := by
  unfold place
  split
  · exact .inl (.refl _)
  · exact present_draws rfl

/-- A fade that starts publishes nothing yet. -/
theorem hide_gradual_surface (l : Live) :
    (l.hide .gradual).world.surface = l.world.surface := by
  simp [hide]

theorem reveal_gradual_surface (l : Live) :
    (l.reveal .gradual).world.surface = l.world.surface := by
  simp [reveal]

theorem hide_draws (l : Live) (transition : Transition) :
    Draws l.world.surface (l.hide transition).world.surface := by
  cases transition with
  | immediate => exact present_draws l.cancelInactivity_surface
  | gradual =>
      rw [hide_gradual_surface]
      exact .inl (.refl _)

theorem reveal_draws (l : Live) (transition : Transition) :
    Draws l.world.surface (l.reveal transition).world.surface := by
  cases transition with
  | immediate => exact present_draws l.restartInactivity_surface
  | gradual =>
      rw [reveal_gradual_surface]
      exact .inl (.refl _)

theorem applyViewport_draws (l : Live) (viewport : Viewport) :
    Draws l.world.surface (l.applyViewport viewport).world.surface := by
  unfold applyViewport
  dsimp only
  split
  · exact .inl (.refl _)
  · apply present_draws
    split
    · rw [fadeAllSpots_surface]
      split
      · exact loadIcons_surface _
      · rfl
    · rfl
    · rfl

theorem setPresentation_draws (l : Live) (presentation : Presentation) :
    Draws l.world.surface (l.setPresentation presentation).world.surface := by
  unfold setPresentation
  split
  · exact .inl (.refl _)
  · apply present_draws
    cases presentation with
    | pointer =>
        dsimp only
        rw [fadeAllSpots_surface]
        split <;> rfl
    | spot => rfl

theorem setSpots_draws (l : Live) (contacts : List Contact) (display : DisplayId) :
    Draws l.world.surface (l.setSpots contacts display).world.surface := by
  unfold setSpots
  split
  · rename_i icons _ _
    have hopen := l.world.surface.isOpen_openTransaction
    have hshown := (Publishes.drawing hopen).update l.controller.spots contacts display
      icons.spots (.refl l.world.surface.openTransaction)
    dsimp only
    rw [startIf_surface]
    exact Surface.draws_bracket hshown
  · exact .inl (.refl _)

/-- A command publishes at most one frame. -/
theorem perform_draws (l : Live) (command : Command) :
    Draws l.world.surface (l.perform command).world.surface := by
  cases command with
  | moveBy dx dy =>
      dsimp only [perform]
      split
      · exact .inl (.refl _)
      · exact place_draws l _
  | place p => exact place_draws l p
  | setButtons buttons => exact .inl (.refl _)
  | hide transition => exact hide_draws l transition
  | reveal transition => exact reveal_draws l transition
  | present presentation => exact setPresentation_draws l presentation
  | setSpots contacts display => exact setSpots_draws l contacts display
  | clearSpots =>
      dsimp only [perform]
      split
      · rw [fadeAllSpots_surface]
        exact .inl (.refl _)
      · exact .inl (.refl _)
  | setTimeout timeout =>
      dsimp only [perform]
      split
      · exact .inl (.refl _)
      · rw [restartInactivity_surface]
        exact .inl (.refl _)
  | setViewport viewport => exact applyViewport_draws l viewport
  | requestIcon id =>
      dsimp only [perform, requestIcon]
      split
      · exact .inl (.refl _)
      · exact present_draws rfl
  | setCustomIcon icon => exact present_draws rfl
  | reload => exact present_draws (loadIcons_surface l)

/-! ## Ticks -/

theorem fadePointer_draws (l : Live) (elapsed : Nanos) :
    Draws l.world.surface (l.fadePointer elapsed).2.world.surface := by
  unfold fadePointer
  dsimp only
  split
  · exact present_draws rfl
  · exact .inl (.refl _)

theorem flipFrame_still {l : Live} (hopen : l.world.surface.isOpen = true) (timestamp : Nanos) :
    Publishes 0 l.world.surface (l.flipFrame timestamp).2.world.surface := by
  unfold flipFrame
  dsimp only
  split
  · split
    · split
      · split
        · dsimp only [onSurface]
          exact (Publishes.drawing hopen).change _ _ _ (.refl _)
        · exact .refl _
      · exact .refl _
    · exact .refl _
  · exact .refl _

/-- A tick publishes one frame, whatever it does. -/
theorem tick_publishes (l : Live) (timestamp : Nanos) :
    Publishes (if l.world.surface.isOpen then 0 else 1) l.world.surface
      (l.tick timestamp).world.surface := by
  unfold tick
  dsimp only
  rw [startIf_surface]
  generalize l.controller.scheduler.elapsed timestamp = elapsed
  have hopen := l.world.surface.isOpen_openTransaction
  have hpointer := (fadePointer_draws ({ l with
    controller.scheduler.pending := false }.onSurface (·.openTransaction)) elapsed).still hopen
  generalize (fadePointer _ elapsed).2 = faded at hpointer ⊢
  have hstill : faded.world.surface.isOpen = true := by
    rw [Surface.isOpen, hpointer.depth]
    exact hopen
  have hspots : Publishes 0 faded.world.surface (faded.fadeSpots elapsed).2.world.surface :=
    (Publishes.drawing hstill).advanceFades _ _ (.refl _)
  have hflipped := flipFrame_still (l := (faded.fadeSpots elapsed).2)
    (by rw [Surface.isOpen, hspots.depth]; exact hstill) timestamp
  exact ((hpointer.trans hspots).trans hflipped).close

theorem receive_draws (l : Live) (notice : Notice) :
    Draws l.world.surface (l.receive notice).2.world.surface := by
  cases notice with
  | events events =>
      dsimp only [receive]
      split
      · exact .inl (.refl _)
      · split
        · exact .inl (.refl _)
        · have htick := tick_publishes l ‹Nanos›
          cases hopen : l.world.surface.isOpen with
          | true => exact .inl (by simpa [hopen] using htick)
          | false => exact .inr ⟨hopen, by simpa [hopen] using htick⟩
  | timer token =>
      dsimp only [receive, timerFired]
      split
      · exact .inl (.refl _)
      · split
        · rw [hide_gradual_surface]
          exact .inl (.refl _)
        · exact .inl (.refl _)
  | failure => exact .inl (.refl _)

/-- Taking a controller down publishes nothing. -/
theorem tearDown_publishes (l : Live) : Publishes 0 l.world.surface l.tearDown.world.surface := by
  unfold tearDown
  dsimp only
  apply Publishes.releaseAll
  split
  · exact .release (by rw [cancelInactivity_surface]; exact .refl _) _
  · rw [cancelInactivity_surface]
    exact .refl _

end Live

/-! ## Runs -/

/-- Between two operations the surface of a session is whole. -/
theorem whole_law : SceneLaw (fun _ surface => surface.Whole) fun v => v.surface.Whole where
  empty _ := ⟨rfl, rfl⟩
  start _ _ _ _ h := h
  perform l command h := by
    obtain ⟨n, -, hpublishes⟩ := (l.perform_draws command).publishes
    exact hpublishes.whole h
  receive l notice h := by
    obtain ⟨n, -, hpublishes⟩ := (l.receive_draws notice).publishes
    exact hpublishes.whole h
  tearDown l h := l.tearDown_publishes.whole h

def Act.frames (a : Act) : Nat := a.after.world.surface.frames - a.before.world.surface.frames

/-- What an act publishes: at most one frame on a command, none when a fade starts or a
timer fires, and one on events with a vsync among them. -/
structure Act.PublishesWhole (a : Act) : Prop where
  command : ∀ c, a.cause = .command c → a.frames ≤ 1
  gradual : a.cause = .command (.hide .gradual) ∨ a.cause = .command (.reveal .gradual) →
    a.frames = 0
  events : ∀ events, a.cause = .notice (.events events) →
    a.frames = if (latestVsync? events).isSome then 1 else 0
  timer : ∀ token, a.cause = .notice (.timer token) → a.frames = 0
  failure : a.cause = .notice .failure → a.frames = 0

theorem Act.publishesWhole {a : Act} (hworking : a.before.controller.tornDown = false)
    (hwhole : a.before.world.surface.Whole) : a.PublishesWhole := by
  obtain ⟨l, cause⟩ := a
  refine ⟨?command, ?gradual, ?events, ?timer, ?failure⟩
  case command =>
    rintro c rfl
    obtain ⟨n, hn, hpublishes⟩ := (l.perform_draws c).publishes
    have hframes : (l.perform c).world.surface.frames = l.world.surface.frames + n :=
      hpublishes.frames
    simp only [Act.frames, Act.after, Live.follow]
    omega
  case gradual =>
    rintro (rfl | rfl)
    · simp [Act.frames, Act.after, Live.follow, Live.perform, Live.hide_gradual_surface]
    · simp [Act.frames, Act.after, Live.follow, Live.perform, Live.reveal_gradual_surface]
  case events =>
    rintro events rfl
    simp only [Act.frames, Act.after, Live.follow, Live.receive]
    cases latestVsync? events with
    | none => simp
    | some timestamp =>
        have htick := (l.tick_publishes timestamp).frames
        have hclosed : l.world.surface.isOpen = false := hwhole.1
        have htorn : l.controller.tornDown = false := hworking
        simp [htorn, htick, hclosed]
  case timer =>
    rintro token rfl
    have htorn : l.controller.tornDown = false := hworking
    have hfired : (l.timerFired token).world.surface = l.world.surface := by
      simp only [Live.timerFired]
      split
      · exact Live.hide_gradual_surface _
      · rfl
    simp [Act.frames, Act.after, Live.follow, Live.receive, htorn, hfired]
  case failure =>
    rintro rfl
    simp [Act.frames, Act.after, Live.follow, Live.receive, World.report]

namespace Session

/-- Making and dropping a controller publish nothing. -/
theorem drop_frames (s : Session) :
    s.drop.host.world.surface.frames = s.host.world.surface.frames := by
  cases hc : s.host.controller with
  | none => rw [drop_of_none hc]
  | some c =>
      obtain ⟨line, hdrop⟩ := drop_of_some hc
      rw [hdrop]
      exact (Live.mk c s.clock s.host.world).tearDown_publishes.frames

theorem start_frames (s : Session) (settings : Settings) :
    (s.start settings).host.world.surface.frames = s.host.world.surface.frames := by
  simp only [start]
  split <;> rfl

/-- In a run, frames are published by acts and by nothing else. -/
theorem frames_chronicled :
    Chronicled (fun d => d.2.1.world.surface.frames = (d.2.2.map Act.frames).sum)
      fun _ => True := by
  have hwritten : ∀ (l : Live) (cause : Cause) (written : List Act),
      l.world.surface.frames = (written.map Act.frames).sum →
      (l.follow cause).world.surface.frames =
        ((written ++ [Act.mk l cause]).map Act.frames).sum := by
    intro l cause written h
    have hmore : l.world.surface.frames ≤ (l.follow cause).world.surface.frames := by
      cases cause with
      | command c =>
          obtain ⟨n, -, hpublishes⟩ := (l.perform_draws c).publishes
          exact Nat.le.intro hpublishes.frames.symm
      | notice notice =>
          obtain ⟨n, -, hpublishes⟩ := (l.receive_draws notice).publishes
          exact Nat.le.intro hpublishes.frames.symm
    simp only [List.map_append, List.map_cons, List.map_nil, List.sum_append, List.sum_cons,
      List.sum_nil, Act.frames, Act.after, ← h]
    omega
  apply Chronicled.of_hear (Q := fun a : Host × List Act =>
    a.1.world.surface.frames = (a.2.map Act.frames).sum)
  case hear =>
    rintro id notice c ⟨⟨controller, world⟩, written⟩ h
    cases controller with
    | none =>
        rw [← List.append_nil written] at h
        cases notice <;> exact h
    | some controller => exact hwritten ⟨controller, c, world⟩ (.notice notice) written h
  case faults => exact fun _ _ _ _ h => h
  case command => exact fun command l written h => hwritten l (.command command) written h
  case drop => exact fun _ s _ h => s.drop_frames.trans h
  case create =>
    exact fun settings _ s _ h => (s.drop.start_frames settings).trans (s.drop_frames.trans h)

/-- No partial frame is ever published.  Between the steps of a run no transaction is open
and nothing was changed outside of one.  Frames are published by what controllers at work
are told and asked: at most one by a command, none by the start of a fade or by a timer,
exactly one by events with a vsync among them.  Making and dropping controllers publish
none. -/
theorem no_partial_frame (now : Nanos) (connected : Bool) (catalogue : Catalogue)
    (steps : List Step) :
    let acts := (blank now connected catalogue).chronicle steps
    let s := (blank now connected catalogue).run steps
    s.host.world.surface.Whole ∧
      (∀ act ∈ acts, act.before.world.surface.Whole ∧ act.PublishesWhole) ∧
      s.host.world.surface.frames = (acts.map Act.frames).sum ∧
      (s.step .drop).2.host.world.surface.frames = s.host.world.surface.frames ∧
      ∀ settings, (s.step (.create settings)).2.host.world.surface.frames =
        s.host.world.surface.frames := by
  intro acts s
  have hs : s.Reachable := ⟨now, connected, catalogue, steps, rfl⟩
  refine ⟨?_, fun act hact => ?_, ?_, s.drop_frames, fun settings => ?_⟩
  · have hmeets := whole_law.run_meets hs
    unfold Host.Meets at hmeets
    split at hmeets <;> exact hmeets
  · have hwhole := whole_law.acts_meet now connected catalogue steps act hact
    obtain ⟨pointer, hstaged⟩ := staged_law.acts_meet now connected catalogue steps act hact
    exact ⟨hwhole, Act.publishesWhole hstaged.kept.working hwhole⟩
  · exact frames_chronicled.run steps (fun _ _ => trivial) (blank now connected catalogue) [] rfl
  · exact (s.drop.start_frames settings).trans s.drop_frames

end Session

end ScreenPointer
