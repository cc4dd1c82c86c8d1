import StyleGuide.Proofs.Report
import StyleGuide.Proofs.Scan.Pool
import StyleGuide.Scan

namespace StyleGuide

namespace Outcome

variable {α β : Type}

end Outcome

namespace Scan

variable (s : Scan) (d : Disk)

variable {s d} {f : Discovery.Found}

variable (s d)
variable (pool : Nat → Option Text)

variable {s d pool}

def sheets : Disk where
  root := .dir [(Text.bytes "styles".toList, .dir [
    (Text.bytes "a.css".toList, .file (Text.toBytes "/** @name a */".toList)),
    (Text.bytes "b.css".toList, .file (Text.toBytes "/** @name b */".toList))])]

end Scan

end StyleGuide
