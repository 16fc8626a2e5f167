import LbbsIo.CString
import LbbsIo.LinkedList
import LbbsIo.Transformer
import LbbsIo.Stack
import LbbsIo.Proof.Registry
import LbbsIo.Proof.Setup
import LbbsIo.Proof.StackInvariants
import LbbsIo.Proof.NullData
import LbbsIo.Proof.Layers
import LbbsIo.Session
import LbbsIo.Proof.Sessions
import LbbsIo.Proof.SessionIds
import LbbsIo.Cli
import LbbsIo.Proof.Cli
import LbbsIo.Process
import LbbsIo.Proof.Process
import LbbsIo.Threads
import LbbsIo.Proof.Threads
import LbbsIo.Proof.Lifetime
import LbbsIo.SharedStack
import LbbsIo.Proof.SharedStack
