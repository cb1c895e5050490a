/-!
Powers, sums, the order of texts and their digests are those of the core library, also where another
library that is imported has its own.
-/

namespace DiagramStudio

attribute [instance (2000), default_instance 20000] instPowNat

attribute [instance (2000)] Zero.ofOfNat0 List.instLE Char.instLT String.instLT instHashableChar

end DiagramStudio
