import Docking.Carrier.Kind

namespace Docking

structure Settings where
  /-- Pointer travel past which a pressed, undocked dockable is torn out. -/
  dragThreshold : Float32
  /-- Pointer travel past which a docked dockable is torn out of its container. -/
  tearOutThreshold : Float32
  /-- Whether to ask if a dockable released over empty space is to be kept. -/
  confirmOnRelease : Bool
  confirmTitle : String
  confirmMessage : String
  windowTitle : String
  /-- The data type that marks a drag session as carrying a dockable. -/
  markerMime : String
  /-- A carrier kind to use whatever the windowing system offers. -/
  forcedCarrier : Option CarrierKind
  snapshotEdge : UInt32
deriving DecidableEq, Inhabited

namespace Settings

def standard : Settings where
  dragThreshold := 3
  tearOutThreshold := 12
  confirmOnRelease := false
  confirmTitle := "Undocked panel"
  confirmMessage := "Keep this panel in its own window?"
  windowTitle := "Tether Panel"
  markerMime := "application/x-tether-dockable"
  forcedCarrier := none
  snapshotEdge := 128

/-- One adjustment. Thresholds below zero count as zero, an empty snapshot as one pixel. -/
inductive Change
  | dragThreshold (pixels : Float32)
  | tearOutThreshold (pixels : Float32)
  | confirmOnRelease (ask : Bool)
  | confirmText (title message : String)
  | windowTitle (title : String)
  | markerMime (mimeType : String)
  | carrier (kind : CarrierKind)
  | snapshotEdge (pixels : UInt32)
deriving DecidableEq, Inhabited

def change (settings : Settings) : Change → Settings
  | .dragThreshold pixels => { settings with dragThreshold := larger 0 pixels }
  | .tearOutThreshold pixels => { settings with tearOutThreshold := larger 0 pixels }
  | .confirmOnRelease ask => { settings with confirmOnRelease := ask }
  | .confirmText title message =>
      { settings with confirmTitle := title, confirmMessage := message }
  | .windowTitle title => { settings with windowTitle := title }
  | .markerMime mimeType => { settings with markerMime := mimeType }
  | .carrier kind => { settings with forcedCarrier := some kind }
  | .snapshotEdge pixels =>
      { settings with snapshotEdge := if pixels = 0 then 1 else pixels }

def ofChanges (changes : List Change) : Settings :=
  changes.foldl change standard

end Settings
end Docking
