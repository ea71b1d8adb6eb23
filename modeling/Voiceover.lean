import Voiceover.Main
import Voiceover.Proofs.Compile.Faults
import Voiceover.Proofs.Compile.Observed
import Voiceover.Proofs.Disk.LastWrite
import Voiceover.Proofs.Path.Encoding
import Voiceover.Proofs.Script.Padding
import Voiceover.Proofs.Script.Rejection
import Voiceover.Proofs.Script.Reordering
import Voiceover.Proofs.Script.Reserved
import Voiceover.Proofs.Session.Repetition
import Voiceover.Proofs.Speech.Cover
import Voiceover.Proofs.Timeline.Closing
import Voiceover.Proofs.Timeline.Exactness
import Voiceover.Proofs.Timeline.Playback
import Voiceover.Proofs.Timeline.Reading
import Voiceover.Proofs.Wave.Locality
import Voiceover.Proofs.Speech.Tempo
import Voiceover.Proofs.Speech.Tiling
