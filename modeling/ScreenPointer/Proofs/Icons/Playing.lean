/-
# Animations keep time

A tick moves an animation on by as many whole frames as fit into the time since its last
frame was due, and the due time by just as much, so nothing is lost between ticks that come
late, twice or out of order.  Since an animation was put on the pointer its frame is then a
function of the greatest tick alone.  It starts over exactly when the icons at hand change;
commands that leave them alone, and ticks, go on with it.
-/

import Mathlib.Tactic.Linarith
import ScreenPointer.Proofs.Icons.Portrait
import ScreenPointer.Proofs.Timeouts

namespace ScreenPointer

/-- Where an animation stands: the frame that is shown, and when it was due. -/
structure Reel where
  frame : Nat
  time : Nanos
  deriving DecidableEq

namespace Reel

/-- Move on to the frame that is due.  A frame stays for its whole duration. -/
def turn (a : Animation) (r : Reel) (timestamp : Nanos) : Reel :=
  let since := Nanos.since r.time timestamp
  if a.frameDuration < since then
    let passed := since / a.frameDuration
    ⟨(r.frame + passed.toNat % a.frames.length) % a.frames.length,
      .wrap (r.time + a.frameDuration * passed)⟩
  else r

/-- No tick comes so long before or after the frame it finds that the time between the two
cannot be written. -/
def Measures (a : Animation) : Reel → List Nanos → Prop
  | _, [] => True
  | r, t :: rest => Nanos.Fits t ∧ Nanos.Fits (t - r.time) ∧ Measures a (r.turn a t) rest

instance decidableMeasures (a : Animation) :
    (r : Reel) → (ticks : List Nanos) → Decidable (Measures a r ticks)
  | _, [] => .isTrue trivial
  | r, t :: rest =>
    have := decidableMeasures a (r.turn a t) rest
    inferInstanceAs (Decidable (Nanos.Fits t ∧ Nanos.Fits (t - r.time) ∧ _))

/-- The frame is the one after so many durations, no tick is more than a duration ahead of it,
and it was due when the ticks had come so far. -/
structure OnTime (a : Animation) (start : Nanos) (ticks : List Nanos) (r : Reel) (turns : Nat) :
    Prop where
  written : Nanos.Fits r.time
  time : r.time = start + a.frameDuration * turns
  frame : r.frame = turns % a.frames.length
  caught : ∀ t ∈ ticks, t - r.time ≤ a.frameDuration
  reached : turns = 0 ∨ ∃ t ∈ ticks, r.time ≤ t

variable {a : Animation} {start : Nanos} {ticks : List Nanos} {r : Reel} {turns : Nat}

theorem onTime_start (a : Animation) (hstart : Nanos.Fits start) :
    OnTime a start [] ⟨0, start⟩ 0 where
  written := hstart
  time := by simp
  frame := (Nat.zero_mod _).symm
  caught := by simp
  reached := .inl rfl

/-- A tick keeps an animation on time. -/
theorem OnTime.turn (h : OnTime a start ticks r turns) (hduration : 0 < a.frameDuration)
    {t : Nanos} (ht : Nanos.Fits t) (hsince : Nanos.Fits (t - r.time)) :
    ∃ turns, OnTime a start (ticks ++ [t]) (r.turn a t) turns := by
  unfold Reel.turn Nanos.since
  rw [Nanos.wrap_of_fits hsince]
  dsimp only
  split
  · rename_i hdue
    have hpassed : 0 ≤ (t - r.time) / a.frameDuration :=
      Int.ediv_nonneg (hduration.trans hdue).le hduration.le
    have hrest := Int.mul_ediv_add_emod (t - r.time) a.frameDuration
    have hnonneg := Int.emod_nonneg (t - r.time) hduration.ne'
    have hless := Int.emod_lt_of_pos (t - r.time) hduration
    have hforward := Int.mul_nonneg hduration.le hpassed
    -- The new frame was due between the old one and the tick.
    have hbehind : r.time + a.frameDuration * ((t - r.time) / a.frameDuration) ≤ t := by linarith
    have hwritten : Nanos.Fits (r.time + a.frameDuration * ((t - r.time) / a.frameDuration)) :=
      ⟨h.written.1.trans (Int.le_add_of_nonneg_right hforward), hbehind.trans_lt ht.2⟩
    rw [Nanos.wrap_of_fits hwritten]
    refine ⟨turns + ((t - r.time) / a.frameDuration).toNat, hwritten, ?_, ?_, ?_,
      .inr ⟨t, by simp, hbehind⟩⟩
    · dsimp only
      rw [Nat.cast_add, Int.toNat_of_nonneg hpassed, mul_add, ← add_assoc, ← h.time]
    · rw [h.frame, ← Nat.add_mod]
    · rw [List.forall_mem_append, List.forall_mem_singleton]
      refine ⟨fun t' ht' => ?_, by dsimp only; linarith⟩
      have hcaught := h.caught t' ht'
      dsimp only
      linarith
  · rename_i hearly
    refine ⟨turns, h.written, h.time, h.frame, ?_, ?_⟩
    · rw [List.forall_mem_append, List.forall_mem_singleton]
      exact ⟨h.caught, Int.not_lt.mp hearly⟩
    · refine h.reached.imp_right fun hreached => ?_
      obtain ⟨t', ht', hle⟩ := hreached
      exact ⟨t', List.mem_append_left _ ht', hle⟩

/-- So do any ticks that can be measured, in whichever order they come. -/
theorem OnTime.turnAll {later : List Nanos} (h : OnTime a start ticks r turns)
    (hduration : 0 < a.frameDuration) (hmeasures : Measures a r later) :
    ∃ turns, OnTime a start (ticks ++ later) (later.foldl (Reel.turn a) r) turns := by
  induction later generalizing ticks r turns with
  | nil => exact ⟨turns, by rwa [List.append_nil]⟩
  | cons t rest ih =>
      obtain ⟨ht, hsince, hrest⟩ := hmeasures
      obtain ⟨turns, hturned⟩ := h.turn hduration ht hsince
      rw [List.append_cons]
      exact ih hturned hrest

/-- Of the greatest tick an animation on time is at most one duration behind. -/
theorem OnTime.lag (h : OnTime a start ticks r turns) {last : Nanos} (hlast : last ∈ ticks)
    (hgreatest : ∀ t ∈ ticks, t ≤ last) (hstart : start ≤ last) :
    0 ≤ last - (start + a.frameDuration * turns) ∧
      last - (start + a.frameDuration * turns) ≤ a.frameDuration := by
  rw [← h.time]
  refine ⟨?_, h.caught last hlast⟩
  rcases h.reached with rfl | ⟨t, ht, hle⟩
  · rw [h.time]
    simpa using hstart
  · exact sub_nonneg.mpr (hle.trans (hgreatest t ht))

/-- Which multiple of a length it is that lies at most one length behind. -/
theorem turns_of_lag {length span : Int} (hlength : 0 < length)
    (hlow : 0 ≤ span - length * turns) (hhigh : span - length * turns ≤ length) :
    (¬ length ∣ span → (turns : Int) = span / length) ∧
      (length ∣ span → (turns : Int) = span / length ∨ (turns : Int) = span / length - 1) := by
  rcases hhigh.lt_or_eq with hless | heq
  · have hturns : span / length = turns := by
      rw [Int.ediv_eq_iff_of_pos hlength]
      constructor <;> nlinarith
    exact ⟨fun _ => hturns.symm, fun _ => .inl hturns.symm⟩
  · have hspan : span = length * (turns + 1) := by linarith [mul_add length (turns : Int) 1]
    have hturns : span / length = turns + 1 := by
      rw [hspan, Int.mul_ediv_cancel_left _ hlength.ne']
    exact ⟨fun hnot => absurd ⟨_, hspan⟩ hnot, fun _ => .inr (by omega)⟩

end Reel

def Controller.reel (c : Controller) : Reel := ⟨c.pointer.frame, c.pointer.frameTime⟩

/-- The animation that a tick goes on with. -/
structure IconView.Spins (v : IconView) (a : Animation) : Prop where
  pointing : v.presentation = .pointer
  animation : v.mouse.animations.find? v.requested = some a
  playable : a.isPlayable = true

theorem IconView.Spins.duration {v : IconView} {a : Animation} (h : v.Spins a) :
    0 < a.frameDuration :=
  of_decide_eq_true (Bool.and_eq_true_iff.mp h.playable).2

/-- An animation plays on the pointer: it is asked for under an id of its own that has an icon. -/
structure IconView.Animates (v : IconView) (a : Animation) : Prop extends v.Spins a where
  valid : v.valid = true
  other : v.requested ≠ v.catalogue.defaultId
  icon : (v.mouse.icons.find? v.requested).isSome = true

namespace Live

open Scene (Kept Staged)

variable {pointer : SpriteId} {l l' : Live} {a : Animation}

/-! ## What a command does to an animation -/

/-- Where the icons at hand change the animation starts over, and where they do not it goes on. -/
structure Rewinds (l l' : Live) : Prop where
  kept : l'.scene.iconView = l.scene.iconView → l'.controller.reel = l.controller.reel
  anew : l'.scene.iconView ≠ l.scene.iconView → l'.controller.reel = ⟨0, l.clock.now⟩

theorem Rewinds.of_eq (hview : l'.scene.iconView = l.scene.iconView)
    (hreel : l'.controller.reel = l.controller.reel) : Rewinds l l' :=
  ⟨fun _ => hreel, fun hchanged => absurd hview hchanged⟩

theorem Rewinds.of_ne (hview : l'.scene.iconView ≠ l.scene.iconView)
    (hreel : l'.controller.reel = ⟨0, l.clock.now⟩) : Rewinds l l' :=
  ⟨fun hkept => absurd hkept hview, fun _ => hreel⟩

/-- Dealings with the clock do not move an animation. -/
theorem reel_of_scene (h : l'.scene = l.scene) : l'.controller.reel = l.controller.reel :=
  congrArg (·.controller.reel) h

/-- Nothing is left to write on a display. -/
theorem written_of_staged (h : Staged pointer l.scene)
    (hvalid : l.controller.viewport.isValid = true) :
    (l.controller.iconChanged || l.controller.presentationChanged) = false := by
  have hdone := h.upToDate hvalid
  exact Bool.or_eq_false_iff.mpr ⟨hdone.iconWritten, hdone.presentationWritten⟩

/-- Without an icon to write, presenting the pointer leaves its animation alone. -/
theorem present_reel_of_written (hwritten : l.controller.viewport.isValid = true →
      (l.controller.iconChanged || l.controller.presentationChanged) = false) :
    l.present.controller.reel = l.controller.reel := by
  unfold present
  split
  · rename_i sprite hvalid _
    have hnone : (((l.onSurface (·.openTransaction)).writePlace sprite).controller.iconChanged ||
        ((l.onSurface (·.openTransaction)).writePlace sprite).controller.presentationChanged) =
          false := hwritten hvalid
    dsimp only
    rw [if_neg (Bool.eq_false_iff.mp hnone)]
    rfl
  · rfl

theorem writeIcon_reel (l : Live) (sprite : SpriteId) :
    (l.writeIcon sprite).2.controller.reel =
      if (l.controller.iconChoice l.world.catalogue.defaultId).animated then ⟨0, l.clock.now⟩
      else l.controller.reel := by
  apply (congrArg (·.controller.reel) (l.writeIcon_scene_eq sprite)).trans
  dsimp only [Controller.reel]
  cases (l.controller.iconChoice l.world.catalogue.defaultId).animated <;> rfl

theorem iconChoice_animated (h : l.scene.iconView.Animates a) :
    (l.controller.iconChoice l.world.catalogue.defaultId).animated = true := by
  obtain ⟨icon, hicon⟩ := Option.isSome_iff_exists.mp h.icon
  have hpointing : l.controller.pointer.presentation = .pointer := h.pointing
  have hother : l.controller.pointer.requested ≠ l.world.catalogue.defaultId := h.other
  have hfound : l.controller.mouse.icons.find? l.controller.pointer.requested = some icon := hicon
  have hanimation : l.controller.mouse.animations.find? l.controller.pointer.requested = some a :=
    h.animation
  simp [Controller.iconChoice, hpointing, hother, hfound, hanimation]

/-- An icon that plays is written together with its first frame. -/
theorem present_reel_of_pending (hplays : l.scene.iconView.Animates a)
    (hsprite : l.controller.sprite = some pointer)
    (hpending : (l.controller.iconChanged || l.controller.presentationChanged) = true) :
    l.present.controller.reel = ⟨0, l.clock.now⟩ := by
  have hvalid : l.controller.viewport.isValid = true := hplays.valid
  unfold present
  rw [hvalid, hsprite]
  dsimp only
  generalize hplaced : (l.onSurface (·.openTransaction)).writePlace pointer = placed
  have hchanged : (placed.controller.iconChanged || placed.controller.presentationChanged) =
      true := by
    rw [← hplaced]
    exact hpending
  have hanimates : placed.scene.iconView.Animates a := by
    rw [← hplaced]
    exact hplays
  have hnow : placed.clock.now = l.clock.now := by
    rw [← hplaced]
    rfl
  rw [if_pos hchanged, reel_of_scene (startIf_scene _ _)]
  apply (writeIcon_reel placed pointer).trans
  rw [if_pos (iconChoice_animated hanimates), hnow]

theorem place_rewinds (h : Staged pointer l.scene) (p : Point) : Rewinds l (l.place p) := by
  apply Rewinds.of_eq (place_iconView l p)
  unfold place
  split
  · rfl
  · have hwritten := written_of_staged h
    exact present_reel_of_written hwritten

theorem hide_rewinds (h : Staged pointer l.scene) (transition : Transition) :
    Rewinds l (l.hide transition) := by
  apply Rewinds.of_eq (iconView_of_undrawn (hide_undrawn l transition))
  rw [← l.cancelInactivity_scene] at h
  have hwritten := written_of_staged h
  apply Eq.trans _ (reel_of_scene l.cancelInactivity_scene)
  cases transition with
  | immediate => exact present_reel_of_written hwritten
  | gradual => exact (reel_of_scene (startAnimation_scene _)).trans rfl

theorem reveal_rewinds (h : Staged pointer l.scene) (transition : Transition) :
    Rewinds l (l.reveal transition) := by
  apply Rewinds.of_eq (iconView_of_undrawn (reveal_undrawn l transition))
  rw [← l.restartInactivity_scene] at h
  have hwritten := written_of_staged h
  apply Eq.trans _ (reel_of_scene l.restartInactivity_scene)
  cases transition with
  | immediate => exact present_reel_of_written hwritten
  | gradual => exact (reel_of_scene (startAnimation_scene _)).trans rfl

theorem setSpots_rewinds (l : Live) (contacts : List Contact) (display : DisplayId) :
    Rewinds l (l.setSpots contacts display) := by
  apply Rewinds.of_eq (iconView_of_undrawn (setSpots_undrawn l contacts display))
  unfold setSpots
  split
  · dsimp only
    exact (reel_of_scene (startIf_scene _ _)).trans rfl
  · rfl

theorem fadeAllSpots_reel (l : Live) : l.fadeAllSpots.controller.reel = l.controller.reel :=
  congrArg (·.controller.reel) l.fadeAllSpots_scene

/-- So is one that is written after the spots were let go. -/
theorem present_reel_of_faded (hplays : l.fadeAllSpots.scene.iconView.Animates a)
    (hsprite : l.controller.sprite = some pointer)
    (hpending : (l.controller.iconChanged || l.controller.presentationChanged) = true) :
    l.fadeAllSpots.present.controller.reel = ⟨0, l.clock.now⟩ := by
  have hpointer : l.fadeAllSpots.controller.sprite = some pointer :=
    (congrArg (·.controller.sprite) l.fadeAllSpots_scene).trans hsprite
  have hflags : (l.fadeAllSpots.controller.iconChanged ||
      l.fadeAllSpots.controller.presentationChanged) = true :=
    (congrArg (fun v : Scene => v.controller.iconChanged || v.controller.presentationChanged)
      l.fadeAllSpots_scene).trans hpending
  rw [present_reel_of_pending hplays hpointer hflags, (fadeAllSpots_works l).quiet.now]

theorem setPresentation_rewinds (h : Staged pointer l.scene) (presentation : Presentation)
    (hplays : (l.setPresentation presentation).scene.iconView.Animates a) :
    Rewinds l (l.setPresentation presentation) := by
  have hview := l.setPresentation_iconView presentation
  have hpointing := hplays.pointing
  rw [hview] at hpointing
  cases presentation with
  | spot => cases hpointing
  | pointer =>
      cases hpresented : l.controller.pointer.presentation with
      | pointer =>
          rw [setPresentation, if_pos hpresented]
          exact .of_eq rfl rfl
      | spot =>
          rw [hpresented] at hview
          apply Rewinds.of_ne
          · intro hsame
            have hspot : l.scene.iconView.presentation = .spot := hpresented
            rw [← hsame, hview] at hspot
            cases hspot
          · unfold setPresentation at hplays ⊢
            rw [if_neg (by rw [hpresented]; nofun)] at hplays ⊢
            dsimp only at hplays ⊢
            rw [present_iconView] at hplays
            split
            · rename_i hlazy
              rw [if_pos hlazy] at hplays
              exact (present_reel_of_faded hplays h.kept.sprite (Bool.or_true _)).trans rfl
            · rename_i hlazy
              rw [if_neg hlazy] at hplays
              exact (present_reel_of_faded hplays h.kept.sprite (Bool.or_true _)).trans rfl

theorem requestIcon_rewinds (h : Staged pointer l.scene) (id : IconId)
    (hplays : (l.requestIcon id).scene.iconView.Animates a) : Rewinds l (l.requestIcon id) := by
  have hview := l.requestIcon_iconView id
  by_cases hsame : l.controller.pointer.requested = id
  · rw [requestIcon, if_pos hsame]
    exact .of_eq rfl rfl
  · apply Rewinds.of_ne
    · intro heq
      rw [hview] at heq
      exact hsame (congrArg IconView.requested heq).symm
    · rw [requestIcon, if_neg hsame] at hplays ⊢
      rw [present_iconView] at hplays
      exact present_reel_of_pending hplays h.kept.sprite (Bool.true_or _)

/-- An icon of the application's own never plays. -/
theorem setCustomIcon_still (l : Live) (icon : Icon) (a : Animation) :
    ¬ (l.setCustomIcon icon).scene.iconView.Animates a := by
  intro hplays
  have hanimation := hplays.animation
  rw [setCustomIcon_iconView] at hanimation
  exact Option.some_ne_none a (hanimation.symm.trans (Keyed.find?_erase_self _ _))

/-- What a display loads is counted, and is to be written. -/
theorem loadIcons_pending (hvalid : l.controller.viewport.isValid = true) :
    l.loadIcons.scene.iconView.loads = l.scene.iconView.loads + 1 ∧
      (l.loadIcons.controller.iconChanged || l.loadIcons.controller.presentationChanged) =
        true := by
  constructor
  · rw [loadIcons_iconView, if_pos hvalid]
    rfl
  · rw [loadIcons, if_pos hvalid]
    exact Bool.true_or _

theorem reload_rewinds (h : Staged pointer l.scene)
    (hplays : l.loadIcons.present.scene.iconView.Animates a) : Rewinds l l.loadIcons.present := by
  rw [present_iconView] at hplays
  cases hvalid : l.controller.viewport.isValid with
  | false =>
      rw [loadIcons, if_neg (Bool.eq_false_iff.mp hvalid)]
      exact .of_eq (present_iconView l) (present_reel_of_written (written_of_staged h))
  | true =>
      obtain ⟨hloads, hpending⟩ := loadIcons_pending hvalid
      apply Rewinds.of_ne
      · intro heq
        rw [present_iconView] at heq
        exact Nat.succ_ne_self _ (hloads.symm.trans (congrArg IconView.loads heq))
      · rw [present_reel_of_pending hplays (loadIcons_kept h.kept).sprite hpending,
          (loadIcons_works l).quiet.now]

theorem applyViewport_rewinds (h : Staged pointer l.scene) (viewport : Viewport)
    (hplays : (l.applyViewport viewport).scene.iconView.Animates a) :
    Rewinds l (l.applyViewport viewport) := by
  unfold applyViewport at hplays ⊢
  dsimp only at hplays ⊢
  by_cases hsame : l.controller.viewport = viewport
  · rw [if_pos hsame]
    exact .of_eq rfl rfl
  · rw [if_neg hsame] at hplays ⊢
    rw [present_iconView] at hplays
    cases hchange : l.controller.viewport.changeTo viewport with
    | reset =>
        rw [hchange] at hplays
        dsimp only at hplays ⊢
        cases hbounds : viewport.bounds? with
        | none =>
            rw [hbounds, fadeAllSpots_iconView] at hplays
            have hgone := Viewport.bounds?_eq_none.mp hbounds
            have hvalid : viewport.isValid = true := hplays.valid
            exact absurd hvalid (Bool.eq_false_iff.mp hgone)
        | some bounds =>
            rw [hbounds] at hplays
            dsimp only at hplays ⊢
            generalize hmoved : { l with
              controller.viewport := viewport
              controller.pointer.position := bounds.center } = moved at hplays ⊢
            have hvalid : moved.controller.viewport.isValid = true := by
              rw [← hmoved]
              exact (Option.ite_none_right_eq_some.mp hbounds).1
            have hkept : Kept pointer moved.scene := by
              rw [← hmoved]
              exact { h.kept with }
            obtain ⟨hloads, hpending⟩ := loadIcons_pending hvalid
            apply Rewinds.of_ne
            · intro heq
              rw [present_iconView, fadeAllSpots_iconView] at heq
              rw [heq, ← hmoved] at hloads
              exact Nat.succ_ne_self _ hloads.symm
            · rw [present_reel_of_faded hplays (loadIcons_kept hkept).sprite hpending,
                (loadIcons_works moved).quiet.now, ← hmoved]
    | reorient =>
        have hvalid : l.controller.viewport.isValid = viewport.isValid :=
          Viewport.isValid_of_changeTo fun hreset => by cases hchange.symm.trans hreset
        have hwritten := fun hviewport => written_of_staged h (hvalid.trans hviewport)
        dsimp only
        exact .of_eq ((present_iconView _).trans (withViewport_iconView hvalid))
          (present_reel_of_written hwritten)
    | unchanged =>
        have hvalid : l.controller.viewport.isValid = viewport.isValid :=
          Viewport.isValid_of_changeTo fun hreset => by cases hchange.symm.trans hreset
        have hwritten := fun hviewport => written_of_staged h (hvalid.trans hviewport)
        dsimp only
        exact .of_eq ((present_iconView _).trans (withViewport_iconView hvalid))
          (present_reel_of_written hwritten)

theorem perform_rewinds (h : Staged pointer l.scene) (command : Command)
    (hplays : (l.perform command).scene.iconView.Animates a) : Rewinds l (l.perform command) := by
  cases command with
  | moveBy dx dy =>
      dsimp only [perform]
      split
      · exact .of_eq rfl rfl
      · exact place_rewinds h _
  | place p => exact place_rewinds h p
  | setButtons buttons => exact .of_eq rfl rfl
  | hide transition => exact hide_rewinds h transition
  | reveal transition => exact reveal_rewinds h transition
  | present presentation => exact setPresentation_rewinds h presentation hplays
  | setSpots contacts display => exact setSpots_rewinds l contacts display
  | clearSpots =>
      dsimp only [perform]
      split
      · exact .of_eq (fadeAllSpots_iconView l) (fadeAllSpots_reel l)
      · exact .of_eq rfl rfl
  | setTimeout timeout =>
      dsimp only [perform]
      split
      · exact .of_eq rfl rfl
      · have hscene := restartInactivity_scene { l with controller.inactivity.timeout := timeout }
        exact .of_eq ((congrArg Scene.iconView hscene).trans rfl) ((reel_of_scene hscene).trans rfl)
  | setViewport viewport => exact applyViewport_rewinds h viewport hplays
  | requestIcon id => exact requestIcon_rewinds h id hplays
  | setCustomIcon icon => exact absurd hplays (setCustomIcon_still l icon a)
  | reload => exact reload_rewinds h hplays

/-! ## What a tick does to an animation -/

theorem flipFrame_reel (hspins : l.scene.iconView.Spins a) (timestamp : Nanos) :
    (l.flipFrame timestamp).2.controller.reel = l.controller.reel.turn a timestamp := by
  have hpointing : l.controller.pointer.presentation = .pointer := hspins.pointing
  have hanimation : l.controller.mouse.animations.find? l.controller.pointer.requested = some a :=
    hspins.animation
  unfold flipFrame Reel.turn
  dsimp only [Controller.reel]
  rw [hpointing, hanimation]
  dsimp only
  rw [if_pos hspins.playable]
  split
  · split <;> rfl
  · rfl

theorem fadePointer_reel (h : Staged pointer l.scene) (elapsed : Nanos) :
    (l.fadePointer elapsed).2.controller.reel = l.controller.reel := by
  have hwritten := written_of_staged h
  unfold fadePointer
  dsimp only
  split
  · exact present_reel_of_written hwritten
  · rfl

theorem tick_reel (h : Staged pointer l.scene) (hspins : l.scene.iconView.Spins a)
    (timestamp : Nanos) :
    (l.tick timestamp).controller.reel = l.controller.reel.turn a timestamp := by
  unfold tick
  dsimp only
  rw [reel_of_scene (startIf_scene _ _)]
  generalize hopened : ({ l with controller.scheduler.pending := false }.onSurface
    (·.openTransaction)) = opened
  have hopen : Staged pointer opened.scene := by
    rw [← hopened]
    exact openTransaction_staged h
  have hsame : opened.controller.reel = l.controller.reel := by
    rw [← hopened]
    rfl
  have hopenSpins : opened.scene.iconView.Spins a := by
    rw [← hopened]
    exact hspins
  have hfaded := fadePointer_reel hopen (l.controller.scheduler.elapsed timestamp)
  have hview := iconView_of_undrawn
    (fadePointer_undrawn opened (l.controller.scheduler.elapsed timestamp))
  generalize (opened.fadePointer (l.controller.scheduler.elapsed timestamp)).2 = faded at *
  rw [← hsame, ← hfaded]
  rw [← hview] at hopenSpins
  exact flipFrame_reel (l := (faded.fadeSpots _).2) hopenSpins timestamp

end Live

namespace Act

def tick? (act : Act) : Option Nanos :=
  match act.cause with
  | .notice (.events events) => latestVsync? events
  | _ => none

/-- Does the act ask for another icon, load icons or change where they are shown? -/
def Selects (act : Act) : Prop := act.after.scene.iconView ≠ act.before.scene.iconView

variable {pointer : SpriteId} {act : Act} {a : Animation}

theorem not_selects_of_notice {notice : Notice} (h : act.cause = .notice notice) :
    ¬ act.Selects := by
  obtain ⟨l, cause⟩ := act
  cases h
  exact fun hselects => hselects (Live.iconView_of_undrawn (Live.receive_undrawn l notice))

/-- An animation starts over when it is selected. -/
theorem reel_of_selects (h : act.before.scene.Staged pointer) (hselects : act.Selects)
    (hplays : act.after.scene.iconView.Animates a) :
    act.after.controller.reel = ⟨0, act.before.clock.now⟩ := by
  obtain ⟨l, cause⟩ := act
  cases cause with
  | command command => exact (Live.perform_rewinds h command hplays).anew hselects
  | notice notice => exact absurd hselects (not_selects_of_notice rfl)

/-- Otherwise only ticks move it. -/
theorem reel_of_not_selects (h : act.before.scene.Staged pointer) (hkeeps : ¬ act.Selects)
    (hplays : act.before.scene.iconView.Animates a) :
    act.after.controller.reel =
      act.tick?.toList.foldl (Reel.turn a) act.before.controller.reel := by
  obtain ⟨l, cause⟩ := act
  have hview := Decidable.not_not.mp hkeeps
  have hworking : l.controller.tornDown = false := h.kept.working
  cases cause with
  | command command =>
      rw [← hview] at hplays
      exact (Live.perform_rewinds h command hplays).kept hview
  | notice notice =>
      cases notice with
      | events events =>
          simp only [after, Live.follow, Live.receive, tick?]
          cases latestVsync? events with
          | none => rfl
          | some timestamp =>
              dsimp only
              rw [hworking]
              exact Live.tick_reel h hplays.toSpins timestamp
      | timer token =>
          simp only [after, Live.follow, Live.receive_timer hworking]
          unfold Live.timerFired
          split
          · exact (Live.hide_rewinds (l := { l with controller.inactivity.pending := none }) h
              .gradual).kept (Live.iconView_of_undrawn (Live.hide_undrawn _ _))
          · rfl
      | failure => rfl

end Act

/-- An animation on the pointer stands where the ticks since it was selected have brought it. -/
def Rolls (acts : List Act) (h : Host) : Prop :=
  ∀ earlier selecting later a, acts = earlier ++ selecting :: later → selecting.Selects →
    (∀ act ∈ later, ¬ act.Selects) → h.iconView.Animates a →
    ∃ c, h.controller = some c ∧
      c.reel = (later.filterMap Act.tick?).foldl (Reel.turn a) ⟨0, selecting.before.clock.now⟩

namespace Rolls

/-- Without a display nothing plays. -/
theorem of_invalid {h : Host} (hinvalid : h.iconView.valid = false) (acts : List Act) :
    Rolls acts h := by
  intro _ _ _ a _ _ _ hplays
  cases hinvalid.symm.trans hplays.valid

theorem of_none {h : Host} (hnone : h.controller = none) (acts : List Act) : Rolls acts h := by
  apply of_invalid
  rw [Host.iconView_of_none hnone]
  rfl

/-- One more act keeps the account. -/
theorem concat {acts : List Act} (act : Act)
    (h : Rolls acts ⟨some act.before.controller, act.before.world⟩)
    (hstaged : ∃ pointer, act.before.scene.Staged pointer) :
    Rolls (acts ++ [act]) ⟨some act.after.controller, act.after.world⟩ := by
  obtain ⟨pointer, hstaged⟩ := hstaged
  intro earlier selecting later a heq hselects hkept hplays
  refine ⟨_, rfl, ?_⟩
  rcases concat_eq_append_cons.mp heq with ⟨rfl, rfl, rfl⟩ | ⟨between, rfl, rfl⟩
  · exact Act.reel_of_selects hstaged hselects hplays
  · rw [List.forall_mem_append, List.forall_mem_singleton] at hkept
    have hbefore : act.before.scene.iconView.Animates a := by
      rw [← Decidable.not_not.mp hkept.2]
      exact hplays
    obtain ⟨c, hc, hreel⟩ := h earlier selecting between a rfl hselects hkept.1 hbefore
    cases hc
    rw [Act.reel_of_not_selects hstaged hkept.2 hbefore, hreel, List.filterMap_append,
      List.foldl_append]
    cases htick : act.tick? <;> simp [htick]

end Rolls

namespace Session

theorem rolls_chronicled :
    Chronicled (fun d => d.2.1.Meets (fun _ surface => surface.Owned [])
      (fun v => ∃ pointer, v.Staged pointer) ∧ Rolls d.2.2 d.2.1) fun _ => True := by
  apply Chronicled.of_hear (Q := fun a : Host × List Act => a.1.Meets
    (fun _ surface => surface.Owned []) (fun v => ∃ pointer, v.Staged pointer) ∧ Rolls a.2 a.1)
  case hear =>
    rintro id notice clock ⟨h, acts⟩ ⟨hmeets, hrolls⟩
    refine ⟨staged_law.hear_meets id notice clock h hmeets, ?_⟩
    obtain ⟨controller, world⟩ := h
    cases controller with
    | none => cases notice <;> exact .of_none rfl _
    | some c => exact hrolls.concat ⟨⟨c, clock, world⟩, .notice notice⟩ hmeets
  case faults =>
    rintro faults - ⟨controller, world⟩ acts ⟨hmeets, hrolls⟩
    refine ⟨hmeets, ?_⟩
    cases controller with
    | none => exact .of_none rfl _
    | some c => exact hrolls
  case command =>
    rintro command l acts ⟨hmeets, hrolls⟩
    exact ⟨staged_law.perform l command hmeets,
      hrolls.concat ⟨l, .command command⟩ hmeets⟩
  case drop =>
    rintro - s acts ⟨hmeets, -⟩
    refine ⟨(staged_law.drop_meets s hmeets).2, .of_invalid ?_ _⟩
    rw [drop_iconView]
    rfl
  case create =>
    rintro settings - s acts ⟨hmeets, -⟩
    obtain ⟨hnone, hdrop⟩ := staged_law.drop_meets s hmeets
    refine ⟨staged_law.start_meets s.drop settings hnone hdrop, .of_invalid ?_ _⟩
    unfold start
    dsimp only
    split <;> rfl

/-- After a run the requested icon has a playable animation on a display: it was selected at
`start`, and these ticks came since. -/
structure PlaysSince (s : Session) (steps : List Step) (start : Nanos) (ticks : List Nanos)
    (a : Animation) (c : Controller) : Prop where
  selected : ∃ earlier selecting later, s.chronicle steps = earlier ++ selecting :: later ∧
    selecting.Selects ∧ (∀ act ∈ later, ¬ act.Selects) ∧ selecting.before.clock.now = start ∧
    later.filterMap Act.tick? = ticks
  controller : (s.run steps).host.controller = some c
  valid : c.viewport.isValid = true
  pointing : c.pointer.presentation = .pointer
  animation : c.mouse.animations.find? c.pointer.requested = some a
  playable : a.isPlayable = true

/-- Animations keep time.  However many ticks came since an animation was selected, and in
whichever order, its frame is a whole number of durations after the first one and at most one
behind the greatest tick.  The ticks may be far apart, but not so far that the time since the
frame they find cannot be written. -/
theorem animation_keeps_time (now : Nanos) (connected : Bool) (catalogue : Catalogue)
    (steps : List Step) {start : Nanos} {ticks : List Nanos} {a : Animation} {c : Controller}
    (hplays : (blank now connected catalogue).PlaysSince steps start ticks a c)
    (hother : c.pointer.requested ≠ catalogue.defaultId) {icon : Icon}
    (hicon : c.mouse.icons.find? c.pointer.requested = some icon)
    (hwritten : Nanos.Fits start) (hmeasures : Reel.Measures a ⟨0, start⟩ ticks) {last : Nanos}
    (hlast : last ∈ ticks) (hgreatest : ∀ t ∈ ticks, t ≤ last) (hstart : start ≤ last) :
    ∃ k : Nat, (c.pointer.frameTime = start + a.frameDuration * k ∧
        c.pointer.frame = k % a.frames.length) ∧
      (0 ≤ last - (start + a.frameDuration * k) ∧
        last - (start + a.frameDuration * k) ≤ a.frameDuration) ∧
      ((¬ a.frameDuration ∣ last - start → (k : Int) = (last - start) / a.frameDuration) ∧
        (a.frameDuration ∣ last - start → (k : Int) = (last - start) / a.frameDuration ∨
          (k : Int) = (last - start) / a.frameDuration - 1)) ∧
      (a.frames.head? = some icon → ((blank now connected catalogue).run steps).host.shownIcon? =
        a.frames[k % a.frames.length]?) := by
  obtain ⟨earlier, selecting, later, hacts, hselects, hkept, rfl, rfl⟩ := hplays.selected
  have hc := hplays.controller
  have hcatalogue := run_iconView_catalogue now connected catalogue steps
  rw [Host.iconView_of_some hc] at hcatalogue
  have hanimates : ((blank now connected catalogue).run steps).host.iconView.Animates a := by
    rw [Host.iconView_of_some hc]
    refine ⟨⟨hplays.pointing, hplays.animation, hplays.playable⟩, hplays.valid, ?_, ?_⟩
    · rw [hcatalogue]
      exact hother
    · exact Option.isSome_iff_exists.mpr ⟨icon, hicon⟩
  have hduration : 0 < a.frameDuration := hanimates.duration
  obtain ⟨-, hrolls⟩ := rolls_chronicled.run steps (fun _ _ => trivial)
    (blank now connected catalogue) [] ⟨staged_law.empty catalogue, .of_none rfl _⟩
  obtain ⟨c', hc', hreel⟩ := hrolls earlier selecting later a hacts hselects hkept hanimates
  cases hc.symm.trans hc'
  obtain ⟨k, honTime⟩ := (Reel.onTime_start a hwritten).turnAll hduration hmeasures
  rw [← hreel] at honTime
  obtain ⟨hlow, hhigh⟩ := honTime.lag hlast hgreatest hstart
  have hquotient := Reel.turns_of_lag hduration (by rw [sub_sub]; exact hlow)
    (by rw [sub_sub]; exact hhigh)
  refine ⟨k, ⟨honTime.time, honTime.frame⟩, ⟨hlow, hhigh⟩, hquotient, fun hfirst => ?_⟩
  have hworld : ((blank now connected catalogue).run steps).host.world.catalogue = catalogue :=
    hcatalogue
  have hmatches : c.mouse.MatchesAt
      ((blank now connected catalogue).run steps).host.world.catalogue.defaultId
      c.pointer.requested := by
    intro animation hanimation
    cases hplays.animation.symm.trans hanimation
    exact ⟨by rw [hworld]; exact hother, fun _ => hicon.trans hfirst.symm⟩
  obtain ⟨shown, hshown, hportrait⟩ := shown_of_matchesAt ⟨now, connected, catalogue, steps, rfl⟩
    hc hplays.valid hmatches
  rw [hworld] at hportrait
  rw [hshown, ← hportrait, ← honTime.frame]
  simp only [Controller.portrait?, hplays.pointing, hicon, hplays.animation, hplays.playable,
    if_neg hother, if_true]
  rfl

/-- It is enough to know which act of the run asked for the icon, and what became of it, if only
ticks came since. -/
theorem exists_playsSince {α : Type} (f : Controller → α) {x : α} {s : Session} {steps : List Step}
    {start : Nanos} {ticks : List Nanos} {a : Animation} {i : Nat}
    (hi : i < (s.chronicle steps).length)
    (hasks : (s.chronicle steps)[i].after.controller.pointer.requested ≠
      (s.chronicle steps)[i].before.controller.pointer.requested)
    (hlater : ∀ act ∈ (s.chronicle steps).drop (i + 1), act.tick? ≠ none)
    (hstart : (s.chronicle steps)[i].before.clock.now = start)
    (hticks : ((s.chronicle steps).drop (i + 1)).filterMap Act.tick? = ticks)
    (hstate : (s.run steps).host.controller.map (fun c => ((c.viewport.isValid,
      c.pointer.presentation, c.mouse.animations.find? c.pointer.requested), f c)) =
        some ((true, .pointer, some a), x))
    (hplayable : a.isPlayable = true) : ∃ c, s.PlaysSince steps start ticks a c ∧ f c = x := by
  obtain ⟨c, hc, hstate⟩ := Option.map_eq_some_iff.mp hstate
  simp only [Prod.mk.injEq] at hstate
  obtain ⟨⟨hvalid, hpointing, hanimation⟩, hx⟩ := hstate
  refine ⟨c, ⟨⟨(s.chronicle steps).take i, _, _, ?_, ?_, fun act hact => ?_, hstart, hticks⟩, hc,
    hvalid, hpointing, hanimation, hplayable⟩, hx⟩
  · rw [List.getElem_cons_drop, List.take_append_drop]
  · exact fun hsame => hasks (congrArg IconView.requested hsame)
  · have htick := hlater act hact
    unfold Act.tick? at htick
    split at htick
    · rename_i events hcause
      exact Act.not_selects_of_notice hcause
    · exact absurd rfl htick

def dot (grey : UInt8) : Icon := ⟨.solid 1 1 ⟨grey, grey, grey, 255⟩, .origin⟩

/-- Three frames of a hundred nanoseconds each. -/
def spinner : Animation := ⟨[dot 1, dot 2, dot 3], 100⟩

/-- A pointer is shown, its icon is asked for at the fiftieth nanosecond, and ticks come. -/
def spin (id : IconId) (ticks : List Nanos) : List Step :=
  [.create {}, .command (.setViewport (.whole .builtin 100 50)), .command (.reveal .gradual),
    .command (.requestIcon ⟨7⟩), .setNow 50, .command (.requestIcon id)] ++ ticks.map .vsync

/-- Of ticks out of order only the greatest counts. -/
theorem animation_keeps_time_of_strays :
    ∃ c, (blank 0 true (Catalogue.plain.withAnimation .wait spinner)).PlaysSince
        (spin .wait [320, 180, 555, 400]) 50 [320, 180, 555, 400] spinner c ∧
      c.pointer.frameTime = 550 ∧ c.pointer.frame = 2 ∧
      ((blank 0 true (Catalogue.plain.withAnimation .wait spinner)).run
        (spin .wait [320, 180, 555, 400])).host.shownIcon? = some (dot 3) := by
  have hsince : ∃ c, (blank 0 true (Catalogue.plain.withAnimation .wait spinner)).PlaysSince
      (spin .wait [320, 180, 555, 400]) 50 [320, 180, 555, 400] spinner c ∧
      (c.pointer.requested, c.mouse.icons.find? c.pointer.requested) =
        (.wait, spinner.frames.head?) :=
    exists_playsSince _ (i := 3) (by decide +kernel) (by decide +kernel) (by decide +kernel)
      (by decide +kernel) (by decide +kernel) (by decide +kernel) (by decide)
  obtain ⟨c, hplays, hasked⟩ := hsince
  obtain ⟨hrequested, hicon⟩ := Prod.mk.inj hasked
  have hother : c.pointer.requested ≠ IconId.arrow := by
    rw [hrequested]
    decide
  have hlast : 555 ∈ [320, 180, 555, (400 : Nanos)] := by decide
  obtain ⟨k, ⟨htime, hframe⟩, -, ⟨hquotient, -⟩, hshown⟩ :=
    animation_keeps_time 0 true _ _ hplays hother hicon (by decide) (by decide) hlast (by decide)
      (by decide)
  have hk : (k : Int) = 5 := hquotient (by decide)
  obtain rfl : k = 5 := by omega
  exact ⟨c, hplays, htime, hframe, hshown rfl⟩

/-- Under the default id, or without an icon of its own, an animation is not started over, so its
frames are due at other times.  And a tick that comes too early to be measured moves an animation
far beyond every tick. -/
theorem animation_off_beat :
    (∃ c, (blank 0 true (Catalogue.plain.withAnimation .arrow spinner)).PlaysSince
        (spin .arrow [210]) 50 [210] spinner c ∧
      ∀ k : Nat, c.pointer.frameTime ≠ 50 + spinner.frameDuration * k) ∧
    (∃ c, (blank 0 true { Catalogue.plain with mouse := ⟨[], [(.wait, spinner)]⟩ }).PlaysSince
        (spin .wait [210]) 50 [210] spinner c ∧
      ∀ k : Nat, c.pointer.frameTime ≠ 50 + spinner.frameDuration * k) ∧
    ∃ c, (blank 0 true (Catalogue.plain.withAnimation .wait spinner)).PlaysSince
        (spin .wait [-0x8000000000000000, 210]) 50 [-0x8000000000000000, 210] spinner c ∧
      ∀ k : Nat, c.pointer.frameTime = 50 + spinner.frameDuration * k →
        210 - (50 + spinner.frameDuration * k) < 0 := by
  have hdefault : ∃ c, (blank 0 true (Catalogue.plain.withAnimation .arrow spinner)).PlaysSince
      (spin .arrow [210]) 50 [210] spinner c ∧ c.pointer.frameTime = 200 :=
    exists_playsSince _ (i := 3) (by decide +kernel) (by decide +kernel) (by decide +kernel)
      (by decide +kernel) (by decide +kernel) (by decide +kernel) (by decide)
  have hmissing : ∃ c,
      (blank 0 true { Catalogue.plain with mouse := ⟨[], [(.wait, spinner)]⟩ }).PlaysSince
        (spin .wait [210]) 50 [210] spinner c ∧ c.pointer.frameTime = 200 :=
    exists_playsSince _ (i := 3) (by decide +kernel) (by decide +kernel) (by decide +kernel)
      (by decide +kernel) (by decide +kernel) (by decide +kernel) (by decide)
  have hearly : ∃ c, (blank 0 true (Catalogue.plain.withAnimation .wait spinner)).PlaysSince
      (spin .wait [-0x8000000000000000, 210]) 50 [-0x8000000000000000, 210] spinner c ∧
      c.pointer.frameTime = 9223372036854775750 :=
    exists_playsSince _ (i := 3) (by decide +kernel) (by decide +kernel) (by decide +kernel)
      (by decide +kernel) (by decide +kernel) (by decide +kernel) (by decide)
  have hbetween (k : Nat) : (200 : Int) ≠ 50 + 100 * k := by omega
  obtain ⟨c, hplays, htime⟩ := hdefault
  obtain ⟨c', hplays', htime'⟩ := hmissing
  obtain ⟨c'', hplays'', htime''⟩ := hearly
  refine ⟨⟨c, hplays, fun k => htime ▸ hbetween k⟩, ⟨c', hplays', fun k => htime' ▸ hbetween k⟩,
    c'', hplays'', fun k hk => ?_⟩
  rw [← hk, htime'']
  decide

end Session

end ScreenPointer
