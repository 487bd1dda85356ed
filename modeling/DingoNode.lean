import DingoNode.ChainStore
import DingoNode.ChainsyncServer
import DingoNode.ChainsyncReplies
import DingoNode.ChainsyncTip
import DingoNode.ChainsyncFollower
import DingoNode.ChainsyncClient
import DingoNode.Outbound
import DingoNode.DialAddress
import DingoNode.Topology
import DingoNode.Reconnect
import DingoNode.OutboundNode
import DingoNode.LocalTxSubmission
import DingoNode.Eras
import DingoNode.MetadataStore
