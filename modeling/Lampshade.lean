import Lampshade.Basic
import Lampshade.Dialer
import Lampshade.Dialer.Streams
import Lampshade.Dialer.Runs
import Lampshade.SendBuffer.Model
import Lampshade.SendBuffer.Steps
import Lampshade.SendBuffer.Close
import Lampshade.SendBuffer.Order
import Lampshade.SendBuffer.Window
import Lampshade.SendBuffer.Timer
import Lampshade.ReceiveBuffer.Model
import Lampshade.ReceiveBuffer.Steps
import Lampshade.ReceiveBuffer.Stream
import Lampshade.ReceiveBuffer.Exits
import Lampshade.ReceiveBuffer.Ended
import Lampshade.ReceiveBuffer.Pool
import Lampshade.ReceiveBuffer.Batches
import Lampshade.ReceiveBuffer.Acking
import Lampshade.Closing
import Lampshade.Pair.Model
import Lampshade.Pair.Flow
import Lampshade.Pair.Delivery
