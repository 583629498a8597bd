import NamadaLedger.Bytes
import NamadaLedger.Types
import NamadaLedger.Monad
import NamadaLedger.Device
import NamadaLedger.Address
import NamadaLedger.SigSection
import NamadaLedger.SigSectionLimits
import NamadaLedger.Sign
import NamadaLedger.SignSteps
import NamadaLedger.Accumulator
import NamadaLedger.SignSpec
import NamadaLedger.SignRun
import NamadaLedger.CallerBuffer
import NamadaLedger.SignLimits
import NamadaLedger.Responses
import NamadaLedger.SigSectionDecode
import NamadaLedger.MaspEnv
import NamadaLedger.MaspCheck
import NamadaLedger.MaspCheckSteps
import NamadaLedger.MaspCheckLimits
import NamadaLedger.MaspSign
import NamadaLedger.MaspKeys
import NamadaLedger.Randomness
import NamadaLedger.MaspDevice
import NamadaLedger.MaspCheckSound
