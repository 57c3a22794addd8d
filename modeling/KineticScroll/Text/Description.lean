import KineticScroll.Number.Decimal
import KineticScroll.Pane.Basic
import KineticScroll.Text.Record

/-!
# Descriptions

The text of a pane and of its parts, for hosts that log them.  The names of
records and fields are those that the hosts know.
-/

namespace KineticScroll

open Text

namespace Px

def describe (value : Px) : String :=
  toString value.toInt

end Px

namespace Rect

def describe (rect : Rect) : String :=
  record "ClipRect"
    [("left", rect.left.describe), ("top", rect.top.describe),
      ("right", rect.right.describe), ("bottom", rect.bottom.describe)]

end Rect

namespace Viewport

def describe (viewport : Viewport) : String :=
  record "ViewportGeometry"
    [("width", viewport.width.describe), ("height", viewport.height.describe),
      ("padding_top", viewport.paddingTop.describe),
      ("padding_bottom", viewport.paddingBottom.describe)]

end Viewport

namespace ContentSize

def describe (content : ContentSize) : String :=
  record "ContentGeometry"
    [("width", content.width.describe), ("height", content.height.describe)]

end ContentSize

namespace Platform

def describe (platform : Platform) : String :=
  record "HostEnvironment"
    [("platform_version", toString platform.version.toNat),
      ("scale_y", Decimal.ofSingle platform.scaleY)]

end Platform

namespace InversionPolicy

def describe : InversionPolicy → String
  | .never => "Never"
  | .always => "Always"
  | .above version => "AbovePlatformVersion(" ++ toString version.toNat ++ ")"

end InversionPolicy

namespace Settings

def describe (settings : Settings) : String :=
  openRecord "ScrollViewOptions"
    [("scroll_enabled", bool settings.scrollEnabled),
      ("paging_enabled", bool settings.pagingEnabled),
      ("snap_interval", toString settings.snapInterval.toNat),
      ("send_momentum_events", bool settings.momentumEvents),
      ("remove_clipped_subviews", bool settings.culling),
      ("end_fill_color", toString settings.endFillColor.toNat),
      ("scroll_perf_tag", option (settings.performanceTag.map quote)),
      ("momentum_delay_ms", toString settings.pollDelay.toNat),
      ("mirrored_fling_policy", settings.inversion.describe)]

end Settings

namespace PaneState

def describe (state : PaneState) : String :=
  record "ScrollState"
    [("offset_x", state.offset.x.describe), ("offset_y", state.offset.y.describe),
      ("is_dragging", bool state.dragging), ("is_flinging", bool state.flinging),
      ("is_actively_scrolling", bool state.active)]

end PaneState

namespace PhysicsGap

def describe : PhysicsGap → String
  | .missing => "ScrollerMissing"
  | .incompatible => "ScrollerIncompatible"

end PhysicsGap

namespace Animation

def describe {σ : Type} (animation : Animation σ) : String :=
  record "FlingController"
    [("patched", bool animation.hasPhysics),
      ("fallback", option (animation.gap?.map PhysicsGap.describe)),
      ("generation", toString animation.generation.toNat)]

end Animation

namespace SettleSequence

def describe (sequence : SettleSequence) : String :=
  record "MomentumPollState"
    [("sequence", toString sequence.number.toNat),
      ("last_scroll_was_active", bool sequence.lastPollWasActive),
      ("snapping_in_progress", bool sequence.snapped)]

end SettleSequence

namespace Settling

def describe (settling : Settling) : String :=
  record "MomentumEventStateMachine"
    [("active", option (settling.current.map SettleSequence.describe)),
      ("next_sequence", toString settling.lastNumber.toNat)]

end Settling

namespace Culling

def describe (culling : Culling) : String :=
  record "ClippingRectManager"
    [("rect", option (culling.rect.map Rect.describe)),
      ("has_content", bool culling.content.isLinked)]

end Culling

namespace Pane

def describe {σ : Type} (pane : Pane σ) : String :=
  openRecord "ScrollEngine"
    [("options", pane.settings.describe),
      ("env", pane.platform.describe),
      ("state", pane.state.describe),
      ("viewport", pane.viewport.describe),
      ("content", option (pane.content.map ContentSize.describe)),
      ("max_scroll_y", pane.extent.limit.describe),
      ("fling", pane.animation.describe),
      ("momentum", pane.settling.describe),
      ("clipping", pane.culling.describe),
      ("pending_frames", toString pane.alarms.pending.length)]

end Pane

end KineticScroll
