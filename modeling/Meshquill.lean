import Meshquill.Protocol.CustomVars
import Meshquill.Transport.Oversized
import Meshquill.Client.Answers
import Meshquill.Client.Interrupted
import Meshquill.Client.Linked
import Meshquill.Client.Messages
import Meshquill.Client.Signing
import Meshquill.Client.Unsent
import Meshquill.Chat.Targets
import Meshquill.Cli.Cleared
import Meshquill.Cli.CommandFile
import Meshquill.Cli.ContactPath
import Meshquill.Cli.Discovery
import Meshquill.Cli.Locks
import Meshquill.Cli.Suggestions
import Meshquill.Store.ConfigPath
import Meshquill.Store.Migration
import Meshquill.Store.Relative
import Meshquill.Store.Retained
import Meshquill.Mqtt.Backoff
import Meshquill.Mqtt.Bridge
import Meshquill.Mqtt.Published
import Meshquill.Python.Streams
import Meshquill.Remote.Neighbours
