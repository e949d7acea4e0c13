import Docking.Proofs.Session.Operation

namespace Docking.Desktop

/-! Which windows there are before and after a request: at most one is closed and at most
one is opened, and a number once given to a window is never given to another. -/

def Numbered (desktop : Desktop) : Prop :=
  ∀ window, desktop.hasWindow window = true → window.number < desktop.nextNumber

theorem numbered_withCapabilities (capabilities : Capabilities) :
    (withCapabilities capabilities).Numbered :=
  fun _ present => nomatch present

/-- The window `old` is closed, `new` is opened, and all others are left alone. -/
structure Exchange (old new : Option WindowId) (before after : Desktop) : Prop where
  hasWindow_iff : ∀ window, after.hasWindow window = true ↔
    new = some window ∨ before.hasWindow window = true ∧ old ≠ some window
  fresh : ∀ window, new = some window →
    before.nextNumber ≤ window.number ∧ window.number < after.nextNumber
  nextNumber_le : before.nextNumber ≤ after.nextNumber

namespace Exchange

variable {old new : Option WindowId} {before middle after : Desktop}

theorem of_same (hasWindow_eq : ∀ window, after.hasWindow window = before.hasWindow window)
    (nextNumber_eq : after.nextNumber = before.nextNumber) : Exchange none none before after where
  hasWindow_iff window := by simp [hasWindow_eq]
  fresh _ opened := nomatch opened
  nextNumber_le := Nat.le_of_eq nextNumber_eq.symm

theorem refl (desktop : Desktop) : Exchange none none desktop desktop :=
  of_same (fun _ => rfl) rfl

theorem prepare (first : Exchange none none before middle)
    (second : Exchange old new middle after) : Exchange old new before after where
  hasWindow_iff window := by
    rw [second.hasWindow_iff, first.hasWindow_iff]
    simp
  fresh window opened :=
    ⟨Nat.le_trans first.nextNumber_le (second.fresh window opened).1,
      (second.fresh window opened).2⟩
  nextNumber_le := Nat.le_trans first.nextNumber_le second.nextNumber_le

theorem conclude (first : Exchange old new before middle)
    (second : Exchange none none middle after) : Exchange old new before after where
  hasWindow_iff window := by
    rw [second.hasWindow_iff, first.hasWindow_iff]
    simp
  fresh window opened :=
    ⟨(first.fresh window opened).1,
      Nat.lt_of_lt_of_le (first.fresh window opened).2 second.nextNumber_le⟩
  nextNumber_le := Nat.le_trans first.nextNumber_le second.nextNumber_le

theorem numbered (exchange : Exchange old new before after) (numbered : before.Numbered) :
    after.Numbered := by
  intro window present
  rcases (exchange.hasWindow_iff window).mp present with opened | ⟨earlier, _⟩
  · exact (exchange.fresh window opened).2
  · exact Nat.lt_of_lt_of_le (numbered window earlier) exchange.nextNumber_le

theorem not_hasWindow_new (exchange : Exchange old new before after) (numbered : before.Numbered)
    {window : WindowId} (opened : new = some window) : before.hasWindow window = false := by
  rw [Bool.eq_false_iff]
  intro present
  exact Nat.not_lt_of_le (exchange.fresh window opened).1 (numbered window present)

end Exchange

variable (desktop : Desktop)

private theorem exchange_insert {after : Desktop} (window : Window)
    (windows_eq : after.windows = desktop.windows.insert ⟨desktop.nextNumber⟩ window)
    (nextNumber_eq : after.nextNumber = desktop.nextNumber + 1) :
    Exchange none (some ⟨desktop.nextNumber⟩) desktop after where
  hasWindow_iff other := by
    simp only [hasWindow, Table.contains, windows_eq, Table.get?_insert]
    by_cases same : other = ⟨desktop.nextNumber⟩
    · simp [same]
    · simp [same, Ne.symm same]
  fresh other opened := by
    cases opened
    exact ⟨Nat.le_refl _, by rw [nextNumber_eq]; exact Nat.lt_succ_self _⟩
  nextNumber_le := by
    rw [nextNumber_eq]
    exact Nat.le_succ _

theorem exchange_addWindow (position : Point) (size : Size) :
    Exchange none (some (desktop.addWindow position size).2) desktop
      (desktop.addWindow position size).1 :=
  desktop.exchange_insert _ rfl rfl

theorem exchange_createWindow (descriptor : WindowDescriptor) :
    Exchange none (desktop.createWindow descriptor).2.toOption desktop
      (desktop.createWindow descriptor).1 := by
  unfold createWindow attempt
  cases desktop.faults (.createWindow descriptor) desktop.requests with
  | some report => exact .of_same (fun _ => rfl) rfl
  | none => exact desktop.exchange_insert ⟨descriptor.position, descriptor.size⟩ rfl rfl

theorem exchange_destroyWindow (window : WindowId) :
    Exchange (some window) none desktop (desktop.destroyWindow window) := by
  unfold destroyWindow
  split
  · refine ⟨fun other => ?_, fun _ opened => (nomatch opened), Nat.le_refl _⟩
    simp only [hasWindow, Table.contains, record, Table.get?_erase]
    by_cases same : other = window
    · simp [same]
    · simp [same, Ne.symm same]
  · next absent =>
      refine ⟨fun other => ?_, fun _ opened => (nomatch opened), Nat.le_refl _⟩
      rw [Bool.not_eq_true] at absent
      by_cases same : other = window
      · simp [same, absent]
      · simp [Ne.symm same]

theorem exchange_moveWindow (window : WindowId) (position : Point) :
    Exchange none none desktop (desktop.moveWindow window position).1 := by
  unfold moveWindow attempt
  cases desktop.faults (.moveWindow window position) desktop.requests with
  | some report => exact .of_same (fun _ => rfl) rfl
  | none =>
      dsimp only
      split
      · exact .of_same (fun _ => rfl) rfl
      · split
        · exact .of_same (fun _ => rfl) rfl
        · refine .of_same (fun other => ?_) rfl
          simp only [hasWindow, Table.contains, record, Table.get?_modify]
          split
          · next same => rw [same, Option.isSome_map]
          · rfl

theorem exchange_startSystemDrag (window : WindowId) (payload : DragPayload) :
    Exchange none none desktop (desktop.startSystemDrag window payload).1 := by
  unfold startSystemDrag attempt
  cases desktop.faults (.startSystemDrag window payload) desktop.requests with
  | some report => exact .of_same (fun _ => rfl) rfl
  | none =>
      dsimp only
      split
      · exact .of_same (fun _ => rfl) rfl
      · split <;> exact .of_same (fun _ => rfl) rfl

theorem exchange_setDragCursor (image : CursorImage) :
    Exchange none none desktop (desktop.setDragCursor image).1 := by
  unfold setDragCursor attempt
  cases desktop.faults (.setDragCursor image) desktop.requests with
  | some report => exact .of_same (fun _ => rfl) rfl
  | none =>
      dsimp only
      split <;> exact .of_same (fun _ => rfl) rfl

theorem exchange_startInteractiveResize (window : WindowId) (edge : ResizeEdge) :
    Exchange none none desktop (desktop.startInteractiveResize window edge).1 := by
  unfold startInteractiveResize attempt
  cases desktop.faults (.startInteractiveResize window edge) desktop.requests with
  | some report => exact .of_same (fun _ => rfl) rfl
  | none =>
      dsimp only
      split
      · exact .of_same (fun _ => rfl) rfl
      · split <;> exact .of_same (fun _ => rfl) rfl

theorem exchange_obey (command : Command) :
    ∃ old new, Exchange old new desktop (desktop.obey command) ∧
      ∀ window, old = some window → command = .destroyWindow window := by
  have closes {new : Option WindowId} (exchange : Exchange none new desktop
      (desktop.obey command)) : ∃ old new, Exchange old new desktop (desktop.obey command) ∧
      ∀ window, old = some window → command = .destroyWindow window :=
    ⟨none, new, exchange, fun _ closed => (nomatch closed)⟩
  cases command with
  | addWindow position size => exact closes (desktop.exchange_addWindow position size)
  | createWindow descriptor => exact closes (desktop.exchange_createWindow descriptor)
  | destroyWindow window =>
      refine ⟨some window, none, desktop.exchange_destroyWindow window, fun other same => ?_⟩
      rw [Option.some.inj same]
  | moveWindow window position => exact closes (desktop.exchange_moveWindow window position)
  | startSystemDrag window payload =>
      exact closes (desktop.exchange_startSystemDrag window payload)
  | setDragCursor image => exact closes (desktop.exchange_setDragCursor image)
  | startInteractiveResize window edge =>
      exact closes (desktop.exchange_startInteractiveResize window edge)
  | setPointer pointer => exact closes (.of_same (fun _ => rfl) rfl)
  | setAnswer keep => exact closes (.of_same (fun _ => rfl) rfl)
  | setFaults faults => exact closes (.of_same (fun _ => rfl) rfl)
  | forgetCalls => exact closes (.of_same (fun _ => rfl) rfl)
  | clearDragCursor => exact closes (.of_same (fun _ => rfl) rfl)
  | confirm title message => exact closes (.of_same (fun _ => rfl) rfl)

end Docking.Desktop
