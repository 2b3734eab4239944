/-!
# Integers of fixed width

The ranges of integers of 32 and 64 bits, for numbers in documents that have to fit one of them.
-/

namespace PodRunner.Word

def least32 : Int := -2147483648

def greatest32 : Int := 2147483647

def least64 : Int := -9223372036854775808

def greatest64 : Int := 9223372036854775807

def isSigned64 (n : Int) : Bool := least64 ≤ n && n ≤ greatest64

def isUnsigned64 (n : Int) : Bool := 0 ≤ n && n < UInt64.size

end PodRunner.Word
