import Voiceover.Phoneme

/-! Mouth tracks. A timeline says in which frame the mouth takes which shape. Frames are counted in
double arithmetic at 24 frames a second, and a frame past the last number of 32 bits is that last
number. The frames of a timeline are kept latest first, because a track mostly grows at its end. -/

namespace Voiceover

open Binary64

def framePeriod : Rat := nearest (1000 / 24)

def saturated (frame : Int) : UInt32 :=
  UInt32.ofNat (min frame.toNat (word32 - 1))

def frameAtMillis (millis : Rat) : UInt32 :=
  saturated (nearest (millis / framePeriod)).floor

/-- The frame of any double: below every frame is frame zero, above every frame is the last one,
and no number at all is frame zero. -/
def frameAtBinary64 : Binary64 → UInt32
  | .nan | .infinity true => 0
  | .infinity false => saturated word32
  | .finite millis => frameAtMillis millis

namespace Duration

def frame (span : Duration) : UInt32 :=
  frameAtMillis span.inMillis

end Duration

def Phoneme.openingFrame (phoneme : Phoneme) : UInt32 :=
  phoneme.start.frame

def Phoneme.closingFrame (phoneme : Phoneme) : UInt32 :=
  frameAtMillis (nearest (phoneme.start.inMillis + phoneme.length.inMillis))

/-- Sets one frame in a list of frames, latest first. -/
def putFrame (frame : UInt32) (shape : MouthShape) :
    List (UInt32 × MouthShape) → List (UInt32 × MouthShape)
  | [] => [(frame, shape)]
  | (other, kept) :: earlier =>
      if other < frame then (frame, shape) :: (other, kept) :: earlier
      else if other = frame then (frame, shape) :: earlier
      else (other, kept) :: putFrame frame shape earlier

abbrev LatestFirst (frames : List (UInt32 × MouthShape)) : Prop :=
  frames.Pairwise fun later earlier => earlier.1 < later.1

theorem mem_putFrame {frame : UInt32} {shape : MouthShape} {frames : List (UInt32 × MouthShape)}
    {entry : UInt32 × MouthShape} (member : entry ∈ putFrame frame shape frames) :
    entry = (frame, shape) ∨ entry ∈ frames := by
  induction frames with
  | nil => simpa [putFrame] using member
  | cons head earlier ih =>
    obtain ⟨other, kept⟩ := head
    simp only [putFrame] at member
    split at member
    · simpa using member
    · split at member
      · rcases List.mem_cons.1 member with same | inside
        · exact .inl same
        · exact .inr (List.mem_cons_of_mem _ inside)
      · rcases List.mem_cons.1 member with same | inside
        · exact .inr (same ▸ List.mem_cons_self)
        · exact (ih inside).imp_right (List.mem_cons_of_mem _)

theorem latestFirst_putFrame (frame : UInt32) (shape : MouthShape)
    {frames : List (UInt32 × MouthShape)} (ordered : LatestFirst frames) :
    LatestFirst (putFrame frame shape frames) := by
  induction frames with
  | nil => simp [putFrame]
  | cons head earlier ih =>
    obtain ⟨other, kept⟩ := head
    obtain ⟨above, rest⟩ := List.pairwise_cons.1 ordered
    simp only [putFrame]
    split
    · rename_i below
      refine List.pairwise_cons.2 ⟨fun entry member => ?_, ordered⟩
      rcases List.mem_cons.1 member with same | inside
      · exact same ▸ below
      · exact UInt32.lt_trans (above entry inside) below
    · split
      · rename_i same
        exact List.pairwise_cons.2 ⟨fun entry member => same ▸ above entry member, rest⟩
      · rename_i notBelow notSame
        refine List.pairwise_cons.2 ⟨fun entry member => ?_, ih rest⟩
        rcases mem_putFrame member with same | inside
        · subst same
          exact UInt32.lt_of_le_of_ne (UInt32.not_lt.1 notBelow) (fun same => notSame same.symm)
        · exact above entry inside

structure Timeline where
  /-- Each frame that has been set and its shape, latest frame first. -/
  frames : List (UInt32 × MouthShape)
  latestFirst : LatestFirst frames
deriving DecidableEq

namespace Timeline

def resting : Timeline := ⟨[(0, .rest)], by simp⟩

def put (timeline : Timeline) (frame : UInt32) (shape : MouthShape) : Timeline :=
  ⟨putFrame frame shape timeline.frames, latestFirst_putFrame frame shape timeline.latestFirst⟩

def add (timeline : Timeline) (phoneme : Phoneme) : Timeline :=
  match MouthShape.ofSymbol? phoneme.symbol with
  | none => timeline
  | some shape => (timeline.put phoneme.openingFrame shape).put phoneme.closingFrame .rest

theorem add_of_shown {phoneme : Phoneme} {shape : MouthShape}
    (shown : MouthShape.ofSymbol? phoneme.symbol = some shape) (timeline : Timeline) :
    timeline.add phoneme =
      (timeline.put phoneme.openingFrame shape).put phoneme.closingFrame .rest := by
  simp only [add, shown]

def build (phonemes : List Phoneme) : Timeline :=
  phonemes.foldl add resting

def get? (timeline : Timeline) (frame : UInt32) : Option MouthShape :=
  (timeline.frames.find? (·.1 = frame)).map (·.2)

def size (timeline : Timeline) : Nat := timeline.frames.length

def toList (timeline : Timeline) : List (UInt32 × MouthShape) := timeline.frames.reverse

def line (entry : UInt32 × MouthShape) : String :=
  toString entry.1.toNat ++ " " ++ entry.2.name ++ "\n"

def text (timeline : Timeline) : String :=
  String.join (timeline.toList.map line)

end Timeline

end Voiceover
