/-
# Further icons

The further icons of the catalogue are at hand while a mouse pointer is presented on a
valid display, with one exception.  Where spots are presented nothing is loaded, and
going back to the mouse pointer loads what is missing only if the table is empty; an
icon of the application's own that is installed in between stands in the way.  The
exception lasts until the icons of a display are loaded anew.
-/

import ScreenPointer.Proofs.Icons.Portrait

namespace ScreenPointer

namespace IconView

variable {v w : IconView} {command : Command}

/-- Everything but the application's own icon is as served. -/
def Full (v : IconView) : Prop :=
  ∀ id, id ≠ v.catalogue.customId → v.mouse.icons.find? id = v.catalogue.mouse.icons.find? id

/-- What is served is at hand, or not wanted and nothing is in its place. -/
def Supplied (v : IconView) : Prop :=
  v.Full ∨ (v.presentation = .spot ∧ v.mouse.isEmpty = true)

/-- The application's own icon is all there is. -/
structure Blocked (v : IconView) : Prop where
  occupied : v.mouse.isEmpty = false
  bare : ∀ id, id ≠ v.catalogue.customId → v.mouse.icons.find? id = none

theorem supplied_loaded (v : IconView) : v.loaded.Supplied := by
  unfold loaded
  cases v.presentation with
  | pointer => exact .inl fun _ _ => rfl
  | spot => exact .inr ⟨rfl, rfl⟩

theorem isEmpty_insert (m : MouseIcons) (id : IconId) (icon : Icon)
    (animations : Keyed IconId Animation) :
    MouseIcons.isEmpty ⟨m.icons.insert id icon, animations⟩ = false := by
  have hfound := Keyed.find?_insert_self id icon m.icons
  unfold MouseIcons.isEmpty
  cases hicons : m.icons.insert id icon with
  | nil =>
      rw [hicons] at hfound
      cases hfound
  | cons pair rest => rfl

/-- An icon that is installed in the empty table of a display with spots is all there is. -/
theorem blocked_withCustom (hempty : v.mouse.isEmpty = true) (icon : Icon) :
    (v.withCustom icon).Blocked := by
  refine ⟨isEmpty_insert v.mouse _ icon _, fun id (hid : id ≠ v.catalogue.customId) => ?_⟩
  have hnone : v.mouse.icons = [] := List.isEmpty_iff.mp hempty
  rw [v.find?_withCustom_of_ne icon hid, hnone]
  rfl

/-- Only loading makes a display valid, and what was loaded is supplied. -/
theorem Turns.loads (turns : v.Turns command w) (hvalid : w.valid = true) :
    (w.loads = v.loads ∧ v.valid = true) ∨ (w.loads = v.loads + 1 ∧ w.Supplied) := by
  cases turns with
  | away gone => cases hvalid
  | displayed shown => exact .inr ⟨rfl, supplied_loaded _⟩
  | reloaded valid => exact .inr ⟨rfl, supplied_loaded _⟩
  | _ => exact .inl ⟨rfl, hvalid⟩

/-- What is supplied stays so, unless the application's icon comes first. -/
theorem Turns.supplied (turns : v.Turns command w) (hvalid : v.valid = true) (h : v.Supplied) :
    w.Supplied ∨ ((∃ icon, command = .setCustomIcon icon) ∧ v.presentation = .spot ∧
      v.mouse.isEmpty = true) := by
  cases turns with
  | kept | away | asked => exact .inl h
  | displayed shown => exact .inl (supplied_loaded _)
  | reloaded valid => exact .inl (supplied_loaded _)
  | spots => exact .inl (h.imp id fun hnone => ⟨rfl, hnone.2⟩)
  | pointing spots =>
      refine .inl (.inl ?_)
      unfold Full IconView.pointing
      dsimp only
      split
      · exact fun _ _ => rfl
      · rename_i hoccupied
        rcases h with hfull | ⟨-, hempty⟩
        · exact hfull
        · exact absurd (by rw [hempty, hvalid]; rfl) hoccupied
  | custom icon =>
      rcases h with hfull | ⟨hspots, hempty⟩
      · exact .inl (.inl fun id hid => (v.find?_withCustom_of_ne icon hid).trans (hfull id hid))
      · exact .inr ⟨⟨icon, rfl⟩, hspots, hempty⟩

/-- What stands in the way stays there until the icons of a display are loaded. -/
theorem Turns.blocked (turns : v.Turns command w) (hloads : w.loads = v.loads) (h : v.Blocked) :
    w.Blocked := by
  cases turns with
  | kept | away | asked | spots => exact ⟨h.occupied, h.bare⟩
  | displayed shown => exact absurd hloads (Nat.succ_ne_self _)
  | reloaded valid => exact absurd hloads (Nat.succ_ne_self _)
  | pointing spots =>
      have hsame : v.pointing = { v with presentation := .pointer } := by
        simp only [IconView.pointing, h.occupied, Bool.false_and, Bool.false_eq_true, if_false]
      rw [hsame]
      exact ⟨h.occupied, h.bare⟩
  | custom icon =>
      exact ⟨isEmpty_insert v.mouse _ icon _, fun id hid =>
        (v.find?_withCustom_of_ne icon hid).trans (h.bare id hid)⟩

end IconView

/-! ## Asking for an icon -/

def LogEntry.missing? : LogEntry → Option IconId
  | iconMissing id => some id
  | _ => none

def World.missing (w : World) : List IconId := w.log.filterMap LogEntry.missing?

namespace Live

open Scene (Kept)

variable {pointer : SpriteId} {l : Live}

theorem askTick_log (l : Live) (id : ListenerId) : (l.askTick id).2.world.log = l.world.log := by
  unfold askTick
  dsimp only
  split
  · rfl
  · split <;> rfl

/-- Asking for a tick reports no icon as missing. -/
theorem startAnimation_missing (l : Live) : l.startAnimation.world.missing = l.world.missing := by
  unfold startAnimation
  split
  · rfl
  · dsimp only
    split
    · rfl
    · rename_i id _
      have hasked := askTick_log { l with controller.scheduler := ⟨true, l.clock.now⟩ } id
      split
      · rename_i asked heq
        rw [heq] at hasked
        exact congrArg (List.filterMap LogEntry.missing?) hasked
      · rename_i error asked heq
        rw [heq] at hasked
        dsimp only at hasked
        simp [World.missing, World.report, hasked, LogEntry.missing?]

theorem startIf_missing (l : Live) (needed : Bool) :
    (if needed then l.startAnimation else l).world.missing = l.world.missing := by
  cases needed with
  | true => exact l.startAnimation_missing
  | false => rfl

theorem writeIcon_missing (l : Live) (sprite : SpriteId) :
    (l.writeIcon sprite).2.world.missing = l.world.missing ++
      if (l.controller.iconChoice l.world.catalogue.defaultId).missing then
        [l.controller.pointer.requested] else [] := by
  have hreported : (if (l.controller.iconChoice l.world.catalogue.defaultId).missing then
      { l with world := l.world.report (.iconMissing l.controller.pointer.requested) }
      else l).world.missing = l.world.missing ++
        if (l.controller.iconChoice l.world.catalogue.defaultId).missing then
          [l.controller.pointer.requested] else [] := by
    split
    · simp [World.missing, World.report, LogEntry.missing?]
    · simp
  rw [← hreported]
  unfold writeIcon
  dsimp only
  cases (l.controller.iconChoice l.world.catalogue.defaultId).missing <;>
    cases (l.controller.iconChoice l.world.catalogue.defaultId).animated <;>
      cases (l.controller.iconChoice l.world.catalogue.defaultId).icon <;> rfl

/-- An icon that is to be written is written, and reported if it is missing. -/
theorem present_shows (hkept : Kept pointer l.scene) (hvalid : l.controller.viewport.isValid = true)
    (hchanged : l.controller.iconChanged = true) {icon : Icon}
    (hicon : (l.controller.iconChoice l.world.catalogue.defaultId).icon = some icon) :
    l.present.world.surface.iconOf? pointer = some icon ∧
      l.present.world.missing = l.world.missing ++
        if (l.controller.iconChoice l.world.catalogue.defaultId).missing then
          [l.controller.pointer.requested] else [] := by
  have hsprite : l.controller.sprite = some pointer := hkept.sprite
  generalize hplace : (l.onSurface (·.openTransaction)).writePlace pointer = placed
  have hplaced : Kept pointer placed.scene := by
    rw [← hplace]
    exact writePlace_kept (l := l.onSurface (·.openTransaction)) hkept.openTransaction
  have hcontroller : placed.controller = l.controller := by rw [← hplace]; rfl
  have hcatalogue : placed.world.catalogue = l.world.catalogue := by rw [← hplace]; rfl
  have hmissing : placed.world.missing = l.world.missing := by rw [← hplace]; rfl
  have hpresent : l.present =
      let written := (placed.writeIcon pointer).2.onSurface (·.closeTransaction)
      if (placed.writeIcon pointer).1 then written.startAnimation else written := by
    unfold present
    rw [hvalid, hsprite]
    dsimp only
    rw [hplace, hcontroller, hchanged]
    rfl
  have hwritten : (placed.writeIcon pointer).2.world.surface =
      placed.world.surface.setIcon pointer icon := by
    have hscene := congrArg Scene.surface (placed.writeIcon_scene_eq pointer)
    rw [hcontroller, hcatalogue] at hscene
    dsimp only at hscene
    rw [hicon] at hscene
    exact hscene
  obtain ⟨r, halive, -⟩ := hplaced.apart
  rw [hpresent]
  refine ⟨?_, ?_⟩
  · have hsurface := congrArg Scene.surface (startIf_scene
      ((placed.writeIcon pointer).2.onSurface (·.closeTransaction)) (placed.writeIcon pointer).1)
    rw [show (if (placed.writeIcon pointer).1 = true then _ else _ : Live).world.surface = _ from
      hsurface]
    exact (Surface.iconOf?_closeTransaction _ _).trans
      (hwritten ▸ Surface.iconOf?_setIcon halive icon)
  · dsimp only
    rw [startIf_missing, ← hmissing, ← hcontroller, ← hcatalogue]
    exact placed.writeIcon_missing pointer

theorem requestIcon_shows (hkept : Kept pointer l.scene)
    (hvalid : l.controller.viewport.isValid = true) {id : IconId}
    (hasked : l.controller.pointer.requested ≠ id) {choice : IconChoice} {icon : Icon}
    (hchoice : { l.controller with pointer.requested := id }.iconChoice
      l.world.catalogue.defaultId = choice) (hicon : choice.icon = some icon) :
    (l.requestIcon id).world.surface.iconOf? pointer = some icon ∧
      (l.requestIcon id).world.missing =
        l.world.missing ++ if choice.missing then [id] else [] := by
  subst hchoice
  rw [requestIcon, if_neg hasked]
  exact present_shows (l := { l with
    controller.pointer.requested := id
    controller.iconChanged := true }) { hkept with } hvalid rfl hicon

end Live

namespace Session

/-- A further icon that is asked for is shown if it is at hand; otherwise the default pointer is
shown and the icon is reported as missing. -/
theorem requestIcon_shows {s : Session} (hs : s.Reachable) {c : Controller}
    (hc : s.host.controller = some c) (hvalid : c.viewport.isValid = true)
    (hpresented : c.pointer.presentation = .pointer) {id : IconId}
    (hasked : c.pointer.requested ≠ id) (hdefault : id ≠ s.host.world.catalogue.defaultId) :
    let s' := (s.step (.command (.requestIcon id))).2
    (∀ icon, c.mouse.icons.find? id = some icon →
      s'.host.shownIcon? = some icon ∧ s'.host.world.missing = s.host.world.missing) ∧
    (c.mouse.icons.find? id = none →
      s'.host.shownIcon? = some s.host.world.catalogue.pointer ∧
        s'.host.world.missing = s.host.world.missing ++ [id]) := by
  obtain ⟨pointer, hstaged, hportrayed⟩ := portrayed_law.live_meets hs hc
  obtain ⟨clock, ⟨controller, world⟩, reported⟩ := s
  cases hc
  generalize hlive : Live.mk c clock world = l
  have hkept : Scene.Kept pointer l.scene := hlive ▸ hstaged.kept
  have hafter : (l.requestIcon id).controller.sprite = some pointer :=
    (Live.requestIcon_staged (hlive ▸ hstaged) id).kept.sprite
  have hcontroller : l.controller = c := congrArg Live.controller hlive.symm
  have hworld : l.world = world := congrArg Live.world hlive.symm
  -- The step is the command, and the sprite is the same before and after.
  have hshown : ∀ icon, (l.requestIcon id).world.surface.iconOf? pointer = some icon →
      ((Session.mk clock ⟨some c, world⟩ reported).step
        (.command (.requestIcon id))).2.host.shownIcon? = some icon := fun icon hicon => by
    change ((Live.mk c clock world).requestIcon id).controller.sprite.bind
      ((Live.mk c clock world).requestIcon id).world.surface.iconOf? = some icon
    rw [hlive, hafter]
    exact hicon
  have hmissing : ((Session.mk clock ⟨some c, world⟩ reported).step
      (.command (.requestIcon id))).2.host.world.missing = (l.requestIcon id).world.missing := by
    rw [← hlive]
    rfl
  intro s'
  refine ⟨fun icon hicon => ?_, fun hnone => ?_⟩
  · have hchoice : { l.controller with pointer.requested := id }.iconChoice
        l.world.catalogue.defaultId =
          { icon, animated := (c.mouse.animations.find? id).isSome } := by
      simp only [Controller.iconChoice, hcontroller, hworld, hpresented, if_neg hdefault, hicon]
    obtain ⟨hwritten, hlogged⟩ := Live.requestIcon_shows hkept (by rw [hcontroller]; exact hvalid)
      (by rw [hcontroller]; exact hasked) hchoice rfl
    refine ⟨hshown icon hwritten, ?_⟩
    rw [hmissing, hlogged, hworld]
    exact List.append_nil _
  · obtain ⟨icons, hicons⟩ := Option.isSome_iff_exists.mp (hstaged.upToDate hvalid).loaded
    have hloaded : c.icons = some ⟨world.catalogue.pointer, world.catalogue.spots⟩ :=
      hportrayed.icons icons hicons ▸ hicons
    have hchoice : { l.controller with pointer.requested := id }.iconChoice
        l.world.catalogue.defaultId = { icon := world.catalogue.pointer, missing := true } := by
      simp only [Controller.iconChoice, hcontroller, hworld, hpresented, if_neg hdefault, hnone,
        hloaded, Option.map_some]
    obtain ⟨hwritten, hlogged⟩ := Live.requestIcon_shows hkept (by rw [hcontroller]; exact hvalid)
      (by rw [hcontroller]; exact hasked) hchoice rfl
    refine ⟨hshown _ hwritten, ?_⟩
    rw [hmissing, hlogged, hworld]
    rfl

/-! ## What stands in the way -/

/-- The step installs an icon of the application's own while spots are presented on a valid
display and no further icons are loaded. -/
def Obstructs (s : Session) (step : Step) : Prop :=
  (∃ icon, step = .command (.setCustomIcon icon)) ∧ s.host.iconView.valid = true ∧
    s.host.iconView.presentation = .spot ∧ s.host.iconView.mouse.isEmpty = true

/-- A step of the run has obstructed the loading of further icons, and the icons of a display were
not loaded since. -/
def Obstructed (s : Session) (steps : List Step) : Prop :=
  ∃ earlier step later, steps = earlier ++ step :: later ∧ (s.run earlier).Obstructs step ∧
    (s.run steps).host.iconView.loads = (s.run earlier).host.iconView.loads

/-- Icons are not unloaded. -/
theorem step_loads_le (s : Session) (step : Step) :
    s.host.iconView.loads ≤ (s.step step).2.host.iconView.loads := by
  have hturns := s.step_turns step
  generalize (s.step step).2.host.iconView = w at hturns ⊢
  cases hturns with
  | kept => exact Nat.le_refl _
  | cleared replaces => exact Nat.le_refl _
  | turned working asks turns =>
      cases turns with
      | displayed shown => exact Nat.le_succ _
      | reloaded valid => exact Nat.le_succ _
      | _ => exact Nat.le_refl _

theorem run_loads_le (s : Session) (steps : List Step) :
    s.host.iconView.loads ≤ (s.run steps).host.iconView.loads := by
  induction steps using List.reverseRecOn with
  | nil => exact Nat.le_refl _
  | append_singleton steps step ih =>
      rw [run_concat]
      exact Nat.le_trans ih (step_loads_le _ step)

theorem Obstructs.step_iconView {s : Session} {step : Step} (h : s.Obstructs step) :
    ∃ icon, (s.step step).2.host.iconView = s.host.iconView.withCustom icon := by
  obtain ⟨⟨icon, rfl⟩, hvalid, -⟩ := h
  obtain ⟨c, hc⟩ := Host.exists_controller hvalid
  exact ⟨icon, step_setCustomIcon_iconView hc icon⟩

/-- The last step obstructs, or nothing is loaded in it and an earlier one did. -/
theorem obstructed_concat_iff (s : Session) (steps : List Step) (step : Step) :
    s.Obstructed (steps ++ [step]) ↔ (s.run steps).Obstructs step ∨ (s.Obstructed steps ∧
      ((s.run steps).step step).2.host.iconView.loads = (s.run steps).host.iconView.loads) := by
  constructor
  · rintro ⟨earlier, obstructing, later, heq, hobstructs, hloads⟩
    cases later using List.reverseRecOn with
    | nil =>
        obtain ⟨rfl, hlast⟩ := List.append_inj' heq rfl
        cases hlast
        exact .inl hobstructs
    | append_singleton middle last =>
        rw [← List.cons_append, ← List.append_assoc] at heq
        obtain ⟨rfl, hlast⟩ := List.append_inj' heq rfl
        cases hlast
        rw [run_concat] at hloads
        have hbefore : (s.run earlier).host.iconView.loads ≤
            (s.run (earlier ++ obstructing :: middle)).host.iconView.loads := by
          rw [run_append]
          exact run_loads_le _ _
        have hafter := step_loads_le (s.run (earlier ++ obstructing :: middle)) step
        rw [hloads] at hafter
        have hsame := Nat.le_antisymm hafter hbefore
        exact .inr ⟨⟨earlier, obstructing, middle, rfl, hobstructs, hsame⟩, hloads.trans hsame.symm⟩
  · rintro (hobstructs | ⟨⟨earlier, obstructing, later, rfl, hobstructs, hloads⟩, hsame⟩)
    · refine ⟨steps, step, [], rfl, hobstructs, ?_⟩
      obtain ⟨icon, hstep⟩ := hobstructs.step_iconView
      rw [run_concat, hstep]
      rfl
    · refine ⟨earlier, obstructing, later ++ [step], by simp, hobstructs, ?_⟩
      rw [run_concat]
      exact hsame.trans hloads

/-- What the step does to a valid display, whose icons were supplied unless something had stood
in the way. -/
theorem step_supplied {s : Session} {step : Step} {obstructed : Prop}
    (h : s.host.iconView.valid = true →
      (¬ obstructed → s.host.iconView.Supplied) ∧ (obstructed → s.host.iconView.Blocked))
    (hvalid : (s.step step).2.host.iconView.valid = true) :
    let obstructed' := s.Obstructs step ∨
      (obstructed ∧ (s.step step).2.host.iconView.loads = s.host.iconView.loads)
    (¬ obstructed' → (s.step step).2.host.iconView.Supplied) ∧
      (obstructed' → (s.step step).2.host.iconView.Blocked) := by
  intro obstructed'
  by_cases hobstructs : s.Obstructs step
  · obtain ⟨icon, hstep⟩ := hobstructs.step_iconView
    refine ⟨fun hnot => absurd (.inl hobstructs) hnot, fun _ => ?_⟩
    rw [hstep]
    exact IconView.blocked_withCustom hobstructs.2.2.2 icon
  · have hearlier : obstructed' ↔ obstructed ∧
        (s.step step).2.host.iconView.loads = s.host.iconView.loads := or_iff_right hobstructs
    rw [hearlier]
    have hturns := s.step_turns step
    generalize (s.step step).2.host.iconView = w at hvalid hturns ⊢
    cases hturns with
    | kept =>
        obtain ⟨hsupplied, hblocked⟩ := h hvalid
        exact ⟨fun hnot => hsupplied fun h => hnot ⟨h, rfl⟩, fun h => hblocked h.1⟩
    | cleared replaces => cases hvalid
    | @turned c command w working asks turns =>
        rcases turns.loads hvalid with ⟨hsame, hbefore⟩ | ⟨hloaded, hsupplied⟩
        · obtain ⟨hsupplied, hblocked⟩ := h hbefore
          refine ⟨fun hnot => ?_, fun h => turns.blocked hsame (hblocked h.1)⟩
          have hbetween := hsupplied fun h => hnot ⟨h, hsame⟩
          rcases turns.supplied hbefore hbetween with h | ⟨⟨icon, rfl⟩, hspots, hempty⟩
          · exact h
          · have hstep : step = .command (.setCustomIcon icon) :=
              eq_command_of_asks asks fun _ heq => by cases heq
            exact absurd ⟨⟨icon, hstep⟩, hbefore, hspots, hempty⟩ hobstructs
        · exact ⟨fun _ => hsupplied, fun h => by omega⟩

/-- On a valid display, what the provider serves is supplied, unless the loading of it was
obstructed: then there is nothing but the application's icon. -/
theorem run_supplied (now : Nanos) (connected : Bool) (catalogue : Catalogue) (steps : List Step)
    (hvalid : ((blank now connected catalogue).run steps).host.iconView.valid = true) :
    (¬ (blank now connected catalogue).Obstructed steps →
      ((blank now connected catalogue).run steps).host.iconView.Supplied) ∧
    ((blank now connected catalogue).Obstructed steps →
      ((blank now connected catalogue).run steps).host.iconView.Blocked) := by
  induction steps using List.reverseRecOn with
  | nil => cases hvalid
  | append_singleton steps step ih =>
      rw [run_concat] at hvalid ⊢
      rw [obstructed_concat_iff]
      exact step_supplied ih hvalid

/-- On a valid display with a mouse pointer every further icon that is served is at hand, is shown
when it is asked for and is not reported as missing, unless an icon of the application's own was
installed while spots were presented and nothing was loaded, and the icons of a display were not
loaded since.  In that case no further icon is at hand, and one that is asked for is reported as
missing and replaced by the default pointer. -/
theorem further_icons_at_hand_unless_obstructed (now : Nanos) (connected : Bool)
    (catalogue : Catalogue) (steps : List Step) {c : Controller}
    (hc : ((blank now connected catalogue).run steps).host.controller = some c)
    (hvalid : c.viewport.isValid = true) (hpresented : c.pointer.presentation = .pointer)
    {id : IconId} (hdefault : id ≠ catalogue.defaultId) (hcustom : id ≠ catalogue.customId)
    {icon : Icon} (hserved : catalogue.mouse.icons.find? id = some icon) :
    let s := (blank now connected catalogue).run steps
    let s' := (s.step (.command (.requestIcon id))).2
    (¬ (blank now connected catalogue).Obstructed steps →
      c.mouse.icons.find? id = some icon ∧
      (c.pointer.requested ≠ id →
        s'.host.shownIcon? = some icon ∧ s'.host.world.missing = s.host.world.missing)) ∧
    ((blank now connected catalogue).Obstructed steps →
      c.mouse.icons.find? id = none ∧
      (c.pointer.requested ≠ id →
        s'.host.shownIcon? = some catalogue.pointer ∧
          s'.host.world.missing = s.host.world.missing ++ [id])) := by
  intro s s'
  have hview := Host.iconView_of_some hc
  have hcatalogue : s.host.iconView.catalogue = catalogue :=
    run_iconView_catalogue now connected catalogue steps
  have hworld : s.host.world.catalogue = catalogue := by
    rw [hview] at hcatalogue
    exact hcatalogue
  obtain ⟨hsupplied, hblocked⟩ := run_supplied now connected catalogue steps
    (by rw [hview]; exact hvalid)
  have hreachable : s.Reachable := ⟨now, connected, catalogue, steps, rfl⟩
  have hother : id ≠ s.host.world.catalogue.defaultId := by
    rw [hworld]
    exact hdefault
  refine ⟨fun hnot => ?_, fun hobstructed => ?_⟩
  · have hfound : c.mouse.icons.find? id = some icon := by
      rcases hsupplied hnot with hfull | ⟨hspots, -⟩
      · have hsame := hfull id (by rw [hcatalogue]; exact hcustom)
        rw [hcatalogue, hserved, hview] at hsame
        exact hsame
      · rw [hview] at hspots
        cases hspots.symm.trans hpresented
    exact ⟨hfound, fun hasked =>
      (requestIcon_shows hreachable hc hvalid hpresented hasked hother).1 icon hfound⟩
  · have hnone : c.mouse.icons.find? id = none := by
      have hbare := (hblocked hobstructed).bare id (by rw [hcatalogue]; exact hcustom)
      rw [hview] at hbare
      exact hbare
    refine ⟨hnone, fun hasked => ?_⟩
    obtain ⟨hshown, hmissing⟩ :=
      (requestIcon_shows hreachable hc hvalid hpresented hasked hother).2 hnone
    exact ⟨hshown.trans (congrArg (fun k : Catalogue => some k.pointer) hworld), hmissing⟩

/-- An icon of the catalogue that was not loaded while spots were presented is shown once there is
a mouse pointer again. -/
theorem further_icon_shown_after_spots :
    let icon := Icon.square ⟨9, 9, 9, 255⟩
    let s := (blank 0 true (.withIcon .plain ⟨1002⟩ icon)).run
      [.create {}, .command (.present .spot),
        .command (.setViewport (.whole .builtin 100 50)), .command (.present .pointer)]
    (s.step (.command (.requestIcon ⟨1002⟩))).2.host.shownIcon? = some icon := by
  intro icon s
  have hstate : s.host.controller.map (fun c =>
      (c.viewport.isValid, c.pointer.presentation, c.pointer.requested)) =
        some (true, .pointer, .arrow) := by decide +kernel
  obtain ⟨c, hc, hstate⟩ := Option.map_eq_some_iff.mp hstate
  simp only [Prod.mk.injEq] at hstate
  obtain ⟨hvalid, hpresented, hrequested⟩ := hstate
  refine ((further_icons_at_hand_unless_obstructed 0 true _ _ hc hvalid hpresented
    (by decide) (by decide) rfl).1 ?_).2 (by rw [hrequested]; decide) |>.1
  rintro ⟨earlier, step, later, heq, ⟨⟨custom, rfl⟩, -⟩, -⟩
  have hmem : Step.command (.setCustomIcon custom) ∈ [Step.create {}, .command (.present .spot),
      .command (.setViewport (.whole .builtin 100 50)), .command (.present .pointer)] := by
    rw [heq]
    simp
  simp at hmem

/-- An icon of the application's own, installed while spots are presented, keeps the icons of the
catalogue from being loaded: one that is asked for is missing. -/
theorem further_icon_missing_after_custom :
    let catalogue := Catalogue.withIcon .plain ⟨1002⟩ (.square ⟨9, 9, 9, 255⟩)
    let s := (blank 0 true catalogue).run
      [.create {}, .command (.present .spot), .command (.setViewport (.whole .builtin 100 50)),
        .command (.setCustomIcon (.square ⟨1, 2, 3, 255⟩)), .command (.present .pointer)]
    let s' := (s.step (.command (.requestIcon ⟨1002⟩))).2
    s.host.iconView.valid = true ∧ s.host.iconView.presentation = .pointer ∧
      s.host.iconView.mouse.icons.find? ⟨1002⟩ = none ∧
      s'.host.shownIcon? = some catalogue.pointer ∧ s'.host.world.missing = [⟨1002⟩] := by
  decide +kernel

end Session

end ScreenPointer
