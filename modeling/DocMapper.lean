import DocMapper.Proofs.Binding
import DocMapper.Proofs.Committing
import DocMapper.Proofs.Defining
import DocMapper.Proofs.Fetching
import DocMapper.Proofs.Histories
import DocMapper.Proofs.Isolation
import DocMapper.Proofs.Lending
import DocMapper.Proofs.Locating
import DocMapper.Proofs.Looking
import DocMapper.Proofs.Losing
import DocMapper.Proofs.Placing
import DocMapper.Proofs.Readers
import DocMapper.Proofs.Recalling
import DocMapper.Proofs.Serializing
import DocMapper.Proofs.Sharing
import DocMapper.Proofs.SinglePass
import DocMapper.Proofs.Surfacing
import DocMapper.Proofs.Yielding
import DocMapper.Script.Run
