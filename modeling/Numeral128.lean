import Numeral128.Log.Output
import Numeral128.Proofs.Exchange
import Numeral128.Proofs.Failure
import Numeral128.Proofs.Flags
import Numeral128.Serial.Settings
import Numeral128.Settings.Load
import Numeral128.Proofs.Lookahead
import Numeral128.Proofs.Field
import Numeral128.Proofs.Loading
import Numeral128.Proofs.Words
import Numeral128.Proofs.Writing
import Numeral128.Proofs.Composition
import Numeral128.Proofs.Events
import Numeral128.Proofs.Merging
import Numeral128.Proofs.SettingsField
import Numeral128.Proofs.Inference
import Numeral128.Proofs.Layering
import Numeral128.Proofs.DistinctKeys
import Numeral128.Proofs.Detection
import Numeral128.Proofs.NormalForm
import Numeral128.Proofs.Calls
import Numeral128.Proofs.Progress
import Numeral128.Proofs.Retrying
import Numeral128.Proofs.Tokens
import Numeral128.Proofs.Serialization
import Numeral128.Proofs.Origins
import Numeral128.Log.Program
import Numeral128.Proofs.Logging
import Numeral128.Proofs.Escapes
import Numeral128.Proofs.FillCharacter
import Numeral128.Proofs.Ordering
import Numeral128.Proofs.Guards
