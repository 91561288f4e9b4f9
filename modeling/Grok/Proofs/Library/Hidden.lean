import Grok.Proofs.FileTree.Hidden
import Grok.Proofs.Library.Directory

namespace Grok.Library

open FileTree FileNode

variable {directory : Path} {d d' : Dictionary} {visits : List Visit}

end Grok.Library
