import ScratchIrcd.Boundary
import ScratchIrcd.ChatHistory
import ScratchIrcd.ColourStrip
import ScratchIrcd.ConnectionCounts
import ScratchIrcd.DisplayHost
import ScratchIrcd.FloodBudget
import ScratchIrcd.GeoGlob
import ScratchIrcd.HashMap
import ScratchIrcd.HiddenChannel
import ScratchIrcd.InputTurn
import ScratchIrcd.Invitations
import ScratchIrcd.JoinClosed
import ScratchIrcd.LiveSettings
import ScratchIrcd.LogFiles
import ScratchIrcd.LogQueue
import ScratchIrcd.MaskMatch
import ScratchIrcd.MemoTable
import ScratchIrcd.Mlock
import ScratchIrcd.ModeLock
import ScratchIrcd.ModeSecrecy
import ScratchIrcd.NickAnnounce
import ScratchIrcd.NoticeSilence
import ScratchIrcd.Oper
import ScratchIrcd.Occupancy
import ScratchIrcd.Output
import ScratchIrcd.PchannelsCache
import ScratchIrcd.PeerNotify
import ScratchIrcd.RoundTrip
import ScratchIrcd.Sasl
import ScratchIrcd.ServiceGrants
import ScratchIrcd.TagRelay
import ScratchIrcd.Throttles
import ScratchIrcd.Tokens
import ScratchIrcd.Unregistered
import ScratchIrcd.UserModes
