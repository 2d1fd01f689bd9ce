import ScreenPointer.Binary.Interchange
import ScreenPointer.Main
import ScreenPointer.Proofs.Contacts
import ScreenPointer.Proofs.Containment
import ScreenPointer.Proofs.Frames
import ScreenPointer.Proofs.Icons.Custom
import ScreenPointer.Proofs.Icons.Provision
import ScreenPointer.Proofs.Mirroring
import ScreenPointer.Proofs.Spots.Independence
import ScreenPointer.Proofs.Succession
import ScreenPointer.Proofs.Timeouts
import ScreenPointer.Proofs.Wakeup
import ScreenPointer.Proofs.Shading
import ScreenPointer.Proofs.Spots.Each
import ScreenPointer.Proofs.Opacity
import ScreenPointer.Proofs.Turning
import ScreenPointer.Proofs.Appearance
import ScreenPointer.Proofs.Checked.Acts
import ScreenPointer.Proofs.Clock.Attended
import ScreenPointer.Proofs.Departure
import ScreenPointer.Proofs.Settings.Lossless
import ScreenPointer.Proofs.Spots.Settling
import ScreenPointer.Proofs.Icons.Playing
import ScreenPointer.Proofs.Repetition
import ScreenPointer.Proofs.Spots.Dimming
import ScreenPointer.Proofs.Fading
import ScreenPointer.Proofs.Binary.Closeness
import ScreenPointer.Proofs.Ending
import ScreenPointer.Proofs.Account
import ScreenPointer.Proofs.Reach
import ScreenPointer.Proofs.Clock.Contract
import ScreenPointer.Proofs.Clock.Rehearsals
import ScreenPointer.Proofs.Equipped
