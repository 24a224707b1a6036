import SmartGroup.Protocol.DCS
import SmartGroup.Group.Subscription
import SmartGroup.Group.Ownership
import SmartGroup.Group.Stream
import SmartGroup.Link.Unlink
import SmartGroup.Link.Agreement
import SmartGroup.Irc.Download
import SmartGroup.Irc.Requests
import SmartGroup.Irc.Servers
import SmartGroup.Irc.Presence
import SmartGroup.Group.Quiet
import SmartGroup.Group.ReceiveOnly
import SmartGroup.Group.LinkTimer
import SmartGroup.Group.Sources
import SmartGroup.Link.Identification
import SmartGroup.Protocol.RoundTrip
import SmartGroup.Protocol.LinkControl
import SmartGroup.Group.RemoteLink
import SmartGroup.Link.Isolation
import SmartGroup.Irc.Login
import SmartGroup.Irc.Session
import SmartGroup.Group.Callsigns
import SmartGroup.Irc.Receiver
import SmartGroup.Irc.NotFound
import SmartGroup.Irc.Leave
import SmartGroup.Irc.Reflectors
import SmartGroup.Group.KeepAlive
import SmartGroup.Link.IdleFrames
import SmartGroup.Group.Copies
import SmartGroup.Group.Inactivity
import SmartGroup.Link.G2Handler
import SmartGroup.Link.Iterators
import SmartGroup.Irc.Query
import SmartGroup.CacheReadBack
import SmartGroup.Protocol.Burst
import SmartGroup.SlowText
import SmartGroup.Protocol.Ports
import SmartGroup.Protocol.StaleBytes
import SmartGroup.Protocol.Drain
import SmartGroup.Irc.Sending
import SmartGroup.ConfigValid
import SmartGroup.Slow.Stale
import SmartGroup.Remote.Connections
import SmartGroup.Irc.Reconnect
import SmartGroup.Link.Freshness
import SmartGroup.Irc.HeardRow
import SmartGroup.Irc.SetUp
import SmartGroup.Group.Relay
import SmartGroup.Group.Forwarding
import SmartGroup.Irc.HostFile
import SmartGroup.Remote.Commands
