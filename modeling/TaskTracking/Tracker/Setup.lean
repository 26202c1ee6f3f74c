import TaskTracking.Config
import TaskTracking.Tracker.State

/-! # Setting up a tracker

  Channels and trackers as the configuration of a page asks for them. Nothing runs
  before the page is entered or a task is started.
-/

namespace TaskTracking

/-- The push channel of the settings, closed. -/
def Push.Channel.ofSettings (p : PushSettings) : Push.Channel :=
  { maxRetry := p.maxRetry, delay := p.reconnectDelay }

/-- The tracker of a configuration, which has to be valid. -/
def Tracker.ofConfig (c : Config) : Except TrackingError Tracker :=
  match c.validated with
  | .error failure => .error (.config failure)
  | .ok c =>
    .ok {
      identity := ⟨c.pageKey⟩
      selector :=
        { push := c.push.map Push.Channel.ofSettings
          poll := { interval := c.pollInterval, threshold := c.stallThreshold } } }

end TaskTracking
