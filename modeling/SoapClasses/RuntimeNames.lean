/-!
# Names of the runtime library

Generated code refers to the classes of a runtime library, and to a few classes of PHP itself, by
their names only.
-/

namespace SoapClasses.RuntimeNames

def caller : String := "Phpro\\SoapClient\\Caller\\Caller"

def engineCaller : String := "Phpro\\SoapClient\\Caller\\EngineCaller"

def eventDispatchingCaller : String := "Phpro\\SoapClient\\Caller\\EventDispatchingCaller"

def defaultEngineFactory : String := "Phpro\\SoapClient\\Soap\\DefaultEngineFactory"

def engineOptions : String := "Phpro\\SoapClient\\Soap\\EngineOptions"

def encoderRegistry : String := "Soap\\Encoding\\EncoderRegistry"

def eventDispatcher : String := "Symfony\\Component\\EventDispatcher\\EventDispatcher"

def soapException : String := "Phpro\\SoapClient\\Exception\\SoapException"

def mixedResult : String := "Phpro\\SoapClient\\Type\\MixedResult"

def multiArgumentRequest : String := "Phpro\\SoapClient\\Type\\MultiArgumentRequest"

def requestInterface : String := "Phpro\\SoapClient\\Type\\RequestInterface"

def resultInterface : String := "Phpro\\SoapClient\\Type\\ResultInterface"

def resultProviderInterface : String := "Phpro\\SoapClient\\Type\\ResultProviderInterface"

def iteratorAggregate : String := "IteratorAggregate"

def arrayIterator : String := "ArrayIterator"

def jsonSerializable : String := "JsonSerializable"

/-- The parameter that takes all arguments of an operation with several. -/
def multiArgumentParameter : String := "multiArgumentRequest"

end SoapClasses.RuntimeNames
