import LinkAdaptation.Snr.Thresholds
/-!
# The link to a peer

Both ends together decide what may be tried.  The generations are exclusive: two ends that both speak HE never fall
back to VHT or HT, only to the legacy rates.  Within a generation the candidates follow the device's list of modes, at
the width, stream count and guard interval that suit both ends.
-/
namespace LinkAdaptation

structure Link where
  widthMHz : Nat
  streams : Nat
  htGuardNs : Nat
  heGuardNs : Nat
deriving DecidableEq

namespace Link

/-- **The smaller width and stream count and the longer guard intervals of two ends.** -/
def between (d : Device) (peer : Capabilities) : Link where
  widthMHz := operatingWidth (min peer.widthMHz d.widthMHz)
  streams := min peer.streams d.streams
  htGuardNs := max peer.htGuardNs d.htGuardNs
  heGuardNs := max peer.heGuardNs d.heGuardNs

/-- The configurations of one mode on a link, fewer streams first. -/
def vectors (l : Link) (m : Mode) : List TxVector :=
  match m.modulation with
  | .ht => if m.htStreams ≤ l.streams then [⟨m, m.htStreams, l.htGuardNs, l.widthMHz⟩] else []
  | .vht => (streamsUpTo l.streams).map fun n => ⟨m, n, l.htGuardNs, l.widthMHz⟩
  | .he => (streamsUpTo l.streams).map fun n => ⟨m, n, l.heGuardNs, l.widthMHz⟩
  | _ => [.legacy m]

end Link

namespace Device

def shares (d : Device) (peer : Capabilities) (g : Generation) : Bool :=
  d.supports g && peer.supports g

/-- The newest generation with MCSes that both ends advertise. -/
def sharedGeneration? (d : Device) (peer : Capabilities) : Option Generation :=
  [.he, .vht, .ht].find? (d.shares peer)

/-- **The generations to try**, in order. -/
def generations (d : Device) (peer : Capabilities) : List Generation :=
  (d.sharedGeneration? peer).toList ++ [.legacy]

def sharedModes (d : Device) (peer : Capabilities) (g : Generation) : List Mode :=
  d.modes.filter fun m => m.generation = g && peer.lists m

/-- **The configurations of a generation that may be sent to a peer.** -/
def candidates (d : Device) (peer : Capabilities) (g : Generation) : List TxVector :=
  ((d.sharedModes peer g).flatMap (Link.between d peer).vectors).filter (·.isPermitted)

end Device
end LinkAdaptation
