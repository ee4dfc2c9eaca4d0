import ZebraNetwork.Source.Time
import ZebraNetwork.Source.Net
import ZebraNetwork.Source.MetaAddr
import ZebraNetwork.Source.MetaAddrChange
import ZebraNetwork.Source.Codec
import ZebraNetwork.Spec.Fold
import ZebraNetwork.Spec.Run
import ZebraNetwork.Guarantees.Run
import ZebraNetwork.Guarantees.Times
import ZebraNetwork.Guarantees.Order
import ZebraNetwork.Guarantees.Gossip
import ZebraNetwork.Guarantees.Sanitize
import ZebraNetwork.Guarantees.RoundTrip
import ZebraNetwork.Guarantees.Summary
import ZebraNetwork.Guarantees.Schedule
import ZebraNetwork.Guarantees.Pipeline
