import Courier.Decimal
import Courier.Metrics

/-! # Metrics as a text to be scraped

Every metric is a family of samples with a name, a line of help and a type. The families
stand in the order of their names; refusals have one sample for each cause.
-/

namespace Courier

/-- What is measured. -/
inductive Series where
  | accepted
  | refused (cause : Refusal)
  | poolSize
  | notified
  | peersConnected
  | relayed
  | recoveryFailures
  deriving DecidableEq

/-- How a series moves. -/
inductive SeriesKind where
  /-- It only grows. -/
  | counter
  /-- It is set to what it is now. -/
  | gauge
  deriving DecidableEq

def SeriesKind.name : SeriesKind → String
  | .counter => "counter"
  | .gauge => "gauge"

def Series.kind : Series → SeriesKind
  | .poolSize | .peersConnected => .gauge
  | _ => .counter

/-- The latest sample of each series. -/
abbrev Samples := Series → Float

namespace Samples

/-- Nothing was measured yet. -/
def zero : Samples := fun _ => 0

/-- Take in a measurement: it is added to a counter and takes the place of a gauge. -/
def record (samples : Samples) (series : Series) (amount : Float) : Samples := fun other =>
  if other = series then
    match series.kind with
    | .counter => samples series + amount
    | .gauge => amount
  else samples other

end Samples

/-- The samples of the counts that a process keeps. -/
def Metrics.samples (metrics : Metrics) : Samples
  | .accepted => .ofNat metrics.accepted
  | .refused cause => .ofNat (metrics.refused cause)
  | .poolSize => .ofNat metrics.poolSize
  | .notified => .ofNat metrics.notified
  | .peersConnected => .ofNat metrics.peersConnected
  | .relayed => .ofNat metrics.relayed
  | .recoveryFailures => .ofNat metrics.recoveryFailures

/-- Series that are written under one name. -/
structure Family where
  name : String
  help : String
  kind : SeriesKind
  /-- The series, each with the labels that tell it from the others. -/
  members : List (String × Series)

namespace Family

def single (name help : String) (series : Series) : Family :=
  ⟨name, help, series.kind, [("", series)]⟩

def reason (cause : Refusal) : String := "\x7breason=\"" ++ cause.label ++ "\"\x7d"

/-- All families, in the order of their names. -/
def all : List Family :=
  [single "hush_peer_envelopes_relayed_total" "Total envelopes sent to peers" .relayed,
    single "hush_peers_connected" "Number of currently connected peers" .peersConnected,
    single "hush_pool_envelopes" "Number of envelopes currently held in the message pool" .poolSize,
    single "hush_pool_envelopes_accepted_total" "Total envelopes admitted into the message pool"
      .accepted,
    ⟨"hush_pool_envelopes_rejected_total", "Envelopes refused by the message pool", .counter,
      Refusal.all.map fun cause => (reason cause, .refused cause)⟩,
    single "hush_tx_sender_recovery_failures_total"
      "Transactions whose sender could not be recovered" .recoveryFailures,
    single "hush_watch_notifications_total"
      "Total envelope hashes appended to watch pending sets" .notified]

def lines (samples : Samples) (family : Family) : List String :=
  ("# HELP " ++ family.name ++ " " ++ family.help) ::
    ("# TYPE " ++ family.name ++ " " ++ family.kind.name) ::
    family.members.map fun (labels, series) =>
      family.name ++ labels ++ " " ++ Decimal.ofFloat (samples series)

end Family

/-- The text of all samples, in which every line is ended. -/
def Samples.text (samples : Samples) : String :=
  String.join ((Family.all.flatMap (Family.lines samples)).map (· ++ "\n"))

end Courier
