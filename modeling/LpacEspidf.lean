import LpacEspidf.Apdu.Line
import LpacEspidf.Apdu.Echo
import LpacEspidf.Apdu.ToRecv
import LpacEspidf.Apdu.TransmitRaw
import LpacEspidf.Apdu.Atr
import LpacEspidf.Apdu.Interface
import LpacEspidf.Card.T0
import LpacEspidf.Card.Channels
import LpacEspidf.Card.Session
import LpacEspidf.Card.Lifecycle
import LpacEspidf.Http.Heap
import LpacEspidf.Http.Driver
import LpacEspidf.Http.Response
import LpacEspidf.Http.Headers
import LpacEspidf.Http.Session
import LpacEspidf.Http.Safety
import LpacEspidf.Http.Leaks
import LpacEspidf.Http.Certs
