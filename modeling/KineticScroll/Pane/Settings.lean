import KineticScroll.Geometry.Page
import KineticScroll.Number.Single

/-!
# Settings

The settings of a pane are replaced as a whole.  Some hosts report the speed of
a release in the coordinates of the screen even when the pane is shown upside
down; a policy says on which of them the speed has to be turned round.
-/

namespace KineticScroll

/-- The host of a pane, found out once. -/
structure Platform where
  version : UInt32
  /-- The vertical scale of the pane, negative when it is upside down. -/
  scaleY : Single
deriving DecidableEq

namespace Platform

def standard : Platform :=
  ⟨0, 1⟩

def isUpsideDown (platform : Platform) : Bool :=
  platform.scaleY < 0

end Platform

/-- When to turn round the velocity of a fling in an upside-down pane. -/
inductive InversionPolicy where
  | never
  | always
  | above (version : UInt32)
deriving DecidableEq

namespace InversionPolicy

def standard : InversionPolicy :=
  .above 27

def appliesTo (policy : InversionPolicy) (platform : Platform) : Bool :=
  platform.isUpsideDown &&
    match policy with
    | .never => false
    | .always => true
    | .above version => version < platform.version

end InversionPolicy

structure Settings where
  /-- Whether touch moves the content at all. -/
  scrollEnabled : Bool
  /-- Come to rest on pages after every release. -/
  pagingEnabled : Bool
  /-- The page size, or zero for the height of the viewport. -/
  snapInterval : UInt32
  momentumEvents : Bool
  culling : Bool
  /-- The colour below content that is shorter than the viewport. -/
  endFillColor : UInt32
  performanceTag : Option String
  pollDelay : Millis
  inversion : InversionPolicy
  /-- Whether somebody listens to the events. -/
  listening : Bool
deriving DecidableEq

namespace Settings

def standardPollDelay : Millis := 20

/-- The colour of no fill. -/
def transparent : UInt32 := 0

def standard : Settings where
  scrollEnabled := true
  pagingEnabled := false
  snapInterval := 0
  momentumEvents := false
  culling := false
  endFillColor := transparent
  performanceTag := none
  pollDelay := standardPollDelay
  inversion := .standard
  listening := false

/-- Whether a release comes to rest on a page. -/
def restsOnPages (settings : Settings) : Bool :=
  settings.pagingEnabled || settings.snapInterval != 0

/-- The tag of the performance meter; an empty one counts as none. -/
def meterTag? (settings : Settings) : Option String :=
  settings.performanceTag.filter fun tag => !tag.isEmpty

def pageSize (settings : Settings) (viewportHeight : Px) : Px :=
  Page.size settings.snapInterval viewportHeight

end Settings

end KineticScroll
