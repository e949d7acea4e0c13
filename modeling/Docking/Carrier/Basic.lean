import Docking.Press
import Docking.Scene
import Docking.Settings
import Docking.Snapshot.Render

namespace Docking

/-! How each kind of carrier takes a dockable into flight and lets go of it. No carrier
changes the phase of its dockable. -/

/-- What a kind of carrier remembers of the current drag. -/
inductive Means
  /-- `grab` is the pointer position within the dockable at the moment of tear-out. -/
  | generic (grab : Point)
  | compositor (sessionActive : Bool)
  | imageCursor (grab : Point) (cursorShown : Bool)
deriving DecidableEq, Inhabited

/-- The means of carrying one dockable and the window it owns for that. -/
structure Carrier where
  means : Means
  window : Option WindowId
deriving DecidableEq, Inhabited

namespace Carrier

def new (kind : CarrierKind) : Carrier where
  means :=
    match kind with
    | .generic => .generic .zero
    | .compositor => .compositor false
    | .imageCursor => .imageCursor .zero false
  window := none

def kind (carrier : Carrier) : CarrierKind :=
  match carrier.means with
  | .generic _ => .generic
  | .compositor _ => .compositor
  | .imageCursor .. => .imageCursor

def sessionActive? (carrier : Carrier) : Option Bool :=
  match carrier.means with
  | .compositor active => some active
  | _ => none

/-- A carrier after an action, the scene it left and what came of it. -/
structure Outcome (Result : Type) where
  carrier : Carrier
  scene : Scene
  result : Result

def dropWindow (carrier : Carrier) (scene : Scene) (node : NodeId) : Carrier × Scene :=
  match carrier.window with
  | none => (carrier, scene)
  | some window => ({ carrier with window := none }, scene.closeWindow node window)

def clearCursor (carrier : Carrier) (scene : Scene) : Carrier × Scene :=
  match carrier.means with
  | .imageCursor grab true =>
      ({ carrier with means := .imageCursor grab false },
        { scene with desktop := scene.desktop.clearDragCursor })
  | _ => (carrier, scene)

def takeWindow (carrier : Carrier) (scene : Scene) (settings : Settings) (node : NodeId)
    (position : Option Point) : Outcome (Except DesktopError WindowId) :=
  match scene.openWindow settings.windowTitle node position with
  | (scene, .error error) => ⟨carrier, scene, .error error⟩
  | (scene, .ok window) => ⟨{ carrier with window := some window }, scene, .ok window⟩

/-- The bytes of a node's number, the lowest first. -/
def markerData (node : NodeId) : List UInt8 :=
  (List.range 8).map fun place => UInt8.ofNat (node.index >>> (8 * place))

def showCursor (scene : Scene) (settings : Settings) (node : NodeId) (grab : Point) :
    Scene × Bool :=
  match Snapshot.render scene.tree node settings.snapshotEdge grab with
  | none => (scene, false)
  | some image =>
      match scene.desktop.setDragCursor image with
      | (desktop, .ok ()) => ({ scene with desktop }, true)
      | (desktop, .error _) => ({ scene with desktop }, false)

/-- Takes an already detached dockable into flight. The pointer is at `root`, which is at
`grab` within the dockable. -/
def undock (carrier : Carrier) (scene : Scene) (settings : Settings) (node : NodeId)
    (root grab : Point) : Outcome (Except DesktopError Unit) :=
  match carrier.means with
  | .generic _ =>
      let (carrier, scene) :=
        { carrier with means := .generic grab }.dropWindow scene node
      let taken := carrier.takeWindow scene settings node (some (root - grab))
      ⟨taken.carrier, taken.scene, taken.result.map fun _ => ()⟩
  | .compositor _ =>
      let (carrier, scene) := carrier.dropWindow scene node
      let taken := carrier.takeWindow scene settings node none
      match taken.result with
      | .error error => ⟨taken.carrier, taken.scene, .error error⟩
      | .ok window =>
          match taken.scene.desktop.startSystemDrag window
              ⟨settings.markerMime, markerData node⟩ with
          | (desktop, .error error) =>
              ⟨taken.carrier, { taken.scene with desktop }, .error error⟩
          | (desktop, .ok ()) =>
              ⟨{ taken.carrier with means := .compositor true },
                { taken.scene with desktop }, .ok ()⟩
  | .imageCursor _ shown =>
      let (carrier, scene) := carrier.dropWindow scene node
      let (scene, showing) := showCursor scene settings node grab
      ⟨{ carrier with means := .imageCursor grab (shown || showing) }, scene, .ok ()⟩

/-- Follows the pointer, if that is how the dockable is carried. A window that cannot be
moved stays where it is. -/
def follow (carrier : Carrier) (scene : Scene) (root : Point) : Scene :=
  match carrier.means, carrier.window with
  | .generic grab, some window =>
      { scene with desktop := (scene.desktop.moveWindow window (root - grab)).1 }
  | _, _ => scene

def handle (carrier : Carrier) (scene : Scene) (press : Option Press) (inFlight : Bool)
    (event : Event) : Scene × Option Press × Gesture :=
  match Press.track press inFlight event with
  | (press, .motion root) =>
      (if inFlight then carrier.follow scene root else scene, press, .motion root)
  | (press, gesture) => (scene, press, gesture)

/-- Gives up what belongs to the flight alone, right before reattachment. -/
def beforeDock (carrier : Carrier) (scene : Scene) (node : NodeId) : Carrier × Scene :=
  let (carrier, scene) := carrier.clearCursor scene
  carrier.dropWindow scene node

/-- Forgets the drag, after docking or after the dockable came to rest undocked. -/
def afterRelease (carrier : Carrier) (scene : Scene) : Carrier × Scene :=
  match carrier.means with
  | .generic _ => ({ carrier with means := .generic .zero }, scene)
  | .compositor _ => ({ carrier with means := .compositor false }, scene)
  | .imageCursor .. =>
      let (carrier, scene) := carrier.clearCursor scene
      ({ carrier with means := .imageCursor .zero false }, scene)

def ownsWindowOf (carrier : Carrier) (tree : Tree) (node : NodeId) : Bool :=
  carrier.window.isSome && carrier.window = tree.window? node

/-- Where a window opened on release is put, if the kind of carrier has a say in it. -/
def settlePosition (carrier : Carrier) (root : Point) : Option Point :=
  match carrier.means with
  | .generic grab => some (root - grab)
  | .compositor _ => none
  | .imageCursor grab _ => some (root - grab)

def settle (carrier : Carrier) (scene : Scene) (settings : Settings) (node : NodeId)
    (root : Point) : Outcome (Except DesktopError Unit) :=
  if carrier.ownsWindowOf scene.tree node then ⟨carrier, scene, .ok ()⟩
  else
    let taken := carrier.takeWindow scene settings node (carrier.settlePosition root)
    ⟨taken.carrier, taken.scene, taken.result.map fun _ => ()⟩

def startInteractiveResize (carrier : Carrier) (scene : Scene) (edge : ResizeEdge) :
    Scene × Except DesktopError Unit :=
  if !scene.desktop.capabilities.interactiveResize then
    (scene, .error (.unsupported "interactive resize"))
  else
    match carrier.window with
    | none => (scene, .error (.unsupported "interactive resize without a window"))
    | some window =>
        let (desktop, result) := scene.desktop.startInteractiveResize window edge
        ({ scene with desktop }, result)

/-- What a compositor notification means to the targets while a session of ours runs. -/
def remap? (carrier : Carrier) (settings : Settings) (event : Event) : Option Event :=
  match carrier.means with
  | .compositor true =>
      match event with
      | .dndEnter root mimeTypes =>
          if mimeTypes.contains settings.markerMime then some (.dockEnter root) else none
      | .dndMotion root => some (.dockDrag root)
      | .dndLeave => some .dockLeave
      | .dndDrop root => some (.dockRelease root)
      | _ => none
  | _ => none

/-- Gives up everything the carrier holds; the dockable is going away. -/
def release (carrier : Carrier) (scene : Scene) (node : NodeId) : Carrier × Scene :=
  let carrier :=
    match carrier.means with
    | .compositor _ => { carrier with means := .compositor false }
    | _ => carrier
  let (carrier, scene) := carrier.clearCursor scene
  carrier.dropWindow scene node

end Carrier
end Docking
