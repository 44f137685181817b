import Hipl.Wire.Message
import Hipl.Wire.Params
import Hipl.EspProt.Common
import Hipl.Hipfw.Config
import Hipl.Hipfw.Conntrack.State
import Hipl.Hipfw.Conntrack.Cache
import Hipl.Hipfw.Conntrack.Update
import Hipl.Hipfw.Conntrack.Verify
import Hipl.Hipfw.Conntrack.Bex
import Hipl.Hipfw.Conntrack.Apply
import Hipl.Hipfw.Conntrack.Chain
import Hipl.Hipfw.UserIpsecEsp
import Hipl.Hipd.State
import Hipl.Hipd.EspProtBex
import Hipl.Hipd.BexAgreement
import Hipl.Hipd.EspProtUpdate
import Hipl.Hipd.Association
import Hipl.Hipd.Collision
import Hipl.Hipd.Keymat
import Hipl.Hipd.R1
import Hipl.Hipd.CheckI2
import Hipl.Hipd.Netdev
import Hipl.Hipd.AddressFilter
import Hipl.Hipd.Input
import Hipl.Hipd.Receive
import Hipl.Hipd.AnchorHandover
import Hipl.Hipfw.BeetModeOutput
import Hipl.Hipfw.EspSequence
import Hipl.Hipfw.RuleManagement
import Hipl.Hipfw.RuleFormat
import Hipl.Hipfw.RuleFile
import Hipl.Core.CertSpki
import Hipl.Core.Statistics
import Hipl.OnPath.BaseExchange
import Hipl.OnPath.AnchorUpdate
