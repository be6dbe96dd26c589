import RestDispatch.Text.ValueMap

/-!
# Ages

The age of a character is the edition of the character data that has it first.
-/

namespace RestDispatch.Text

/-- The editions in their order, each with its mark in the table of ages. -/
def editions : List (String × String) := [
  ("Aa", "1.1"), ("Ab", "2.0"), ("Ac", "2.1"), ("Ad", "3.0"), ("Ae", "3.1"), ("Af", "3.2"),
  ("Ag", "4.0"), ("Ah", "4.1"), ("Ai", "5.0"), ("Aj", "5.1"), ("Ak", "5.2"), ("Al", "6.0"),
  ("Am", "6.1"), ("An", "6.2"), ("Ao", "6.3"), ("Ap", "7.0"), ("Aq", "8.0"), ("Ar", "9.0"),
  ("As", "10.0"), ("At", "11.0"), ("Au", "12.0"), ("Av", "12.1"), ("Aw", "13.0"), ("Ax", "14.0"),
  ("Ay", "15.0"), ("Az", "15.1"), ("Ba", "16.0")]

/-- The mark of the edition that has a code point first, which is `Zz` where there is none. -/
def ages : ValueMap := .ofText
  "502Aa4Ad30Aa8AdAfAg18Ad3Ag11Ah14Ai89Aa5Ad2Ag47AaAd10Aa5Ad17Ag70Aa9AdAf8Ag5Ah3Ag2AaAd13Af4Aj
    2Aa2Aj2ZzAa3AiAaAp4Zz7AaZzAaZz20AaZz44AaAj7AaAd2AfAaAdAaAdAaAdAaAd18Aa2AeAf5Ag4AhAd12AaAd
    66AaAd12AaAd41AaAj2Ad2Af4Ad53Aa2Af2Aa2Af2Aa2AfAi28Aa2Ad8Aa2Ah2Aa6Ai16Af4Ai16Aj2Ak2Al8ApZz
    38Aa2Zz7AaAt39AaAtAaAd2Zz2ApAmZz17AbAh13Ab10AaAi9AaAb3Ah8Zz27Aa4ZzAt5Aa11Zz4AgAmAp5AjAhAa9Ag
    5AjAaAoAxAhAaAl26Aa5Aj19Aa3Ad3Ag6AhAl14Aa2Af72Aa2Ad5AaAd15AaAd30Aa2Ag10Aa5AdAg14AdZz30Ad3Ag
    27Ad2Zz3Ag30Ah18Aj49AdAf14Zz59Ai2Zz3At46Ak2Zz15AkZz28Al2ZzAlZz11As5Zz31AxZz2Ax5ZzBa8AxAmAp
    11Am6Ap2AqAx8Ar10Aw11AxAt15ArAq27AmApAk3AaAg53Aa2Al18AaAkAl5AaAk2Al25Aa2Aj5AlAp2Ak2AiAh2AiAp
    3AaZz8Aa2Zz2Aa2Zz22AaZz7AaZzAa3Zz4Aa2ZzAaAg7Aa2Zz2Aa2Zz3AaAh8ZzAa4Zz2AaZz5Aa2Zz21AaAk2AsAt
    2ZzAgAaAgZz6Aa4Zz2Aa2Zz22AaZz7AaZz2AaZz2AaZz2Aa2ZzAaZz5Aa4Zz2Aa2Zz3Aa3ZzAj7Zz4AaZzAa7Zz15Aa
    AjAt10Zz3AaZz7AaAgAaZz3AaZz22AaZz7AaZz2AaZz5Aa2Zz10AaZz3AaZz3Aa2ZzAa15ZzAa3Ag2Zz10AaAmAg7Zz
    Aq6AsZz3AaZz8Aa2Zz2Aa2Zz22AaZz7AaZz2AaZzAg4Aa2Zz8AaAj2Zz2Aa2Zz3Aa7ZzAw2Aa4Zz2AaZz3Aa2Aj2Zz
    11AaAg6Al10Zz2AaZz6Aa3Zz3AaZz4Aa3Zz2AaZzAaZz2Aa3Zz2Aa3Zz3Aa3Zz8AaAh3Aa4Zz5Aa3Zz3AaZz4Aa2ZzAj
    6ZzAa14ZzAh12Aa8Ag5ZzAp3AaAt8AaZz3AaZz23AaZz10AaAp5Aa2ZzAxAj7AaZz3AaZz4Aa7Zz2AaZz2AjAq2ZzAx
    2Zz2Aa2Aj2Zz10Aa7ZzAu8AjArAp2AaAt8AaZz3AaZz23AaZz10AaZz5Aa2Zz2Ag7AaZz3AaZz4Aa7Zz2Aa6ZzAxAaZz
    2Aa2Ai2Zz10AaZz2AiAy12ZzAsAp2AaAw8AaZz3AaZz23AaAl16AaAl2AsAj6AaAjZz3AaZz4AaAlAr4Zz3ArAa7ArAq
    2Aa2Aj2Zz10Aa6Aj3Ar7AjZzAw2AdZz18Ad3Zz24AdZz9AdZzAd2Zz7Ad3ZzAd4Zz6AdZzAdZz8Ad6Zz10Ap2Zz3Ad
    12Zz58Aa4Zz29Aa37Zz2AaZzAaZzAu2AaAuAaZzAuAa6Au4AaAu7AaAu3AaZzAaZzAa2Au2AaAu13AaAu3Aa2Zz5AaZz
    AaZz6AaAyZz10Aa2Zz2Aa2Am32Zz72AbZz33AbAd2Aj4Zz27Ab4Al6AbAdAbZz21Ab3Ad7AbAdAb3AdZz15AdZzAjAd
    2Ah3Aj4Ak2Al37Zz34AdAj5AdAj2AdAj7Ad3Aj4Ad6Aj26Ad64Aj4Ak2Aj38AaZzAm5ZzAm2Zz39Aa2Af2AhAaAh3Am
    90Aa5Ak68Aa5Ak82Aa6Ak7AdAh63AdAhAdZz4Ad2Zz7AdZzAdZz4Ad2Zz39AdAhAdZz4Ad2Zz31AdAhAdZz4Ad2Zz7Ad
    ZzAdZz4Ad2Zz7AdAh7AdZz23AdAh31AdAhAdZz4Ad2Zz7AdAh39AdAh19Ad2Zz2Al2Ah28Ad3Zz26Ah6Zz85AdAq2Zz
    6Aq2ZzAk630Ad9Ak29Ad3Zz81Ad8Ap7Zz13AfAx7AfAx9ZzAx23Af9Zz20Af12Zz13AfZz3AfZz2Af12Zz93AdAg2Zz
    10Ad6Zz10Ag6Zz15AdAx10Ad6Zz88AdAt7Zz42AdAj5Zz70Ak10Zz29Ag2ApZz12Ag4Zz12Ag4ZzAg3Zz42Ag2Zz5Ag
    11Zz42Ah2Ak4Zz26Ah6Zz10AhAk3Zz2Ah32Ag28Ah2Zz2Ah63AkZz29Ak2Zz11Ak6Zz10Ak6Zz14Ak2Zz15Ap2Aw14Ax
    49Zz76AiAxZz2Ba45Ai2AxBa43Aj3Am12Aj6Am52Al8Zz4Al56Aj3Zz15Aj3Zz51Aj9Ar2Ba5Zz43At2Zz3At8Am8Zz
    35Ak4AmAs2ApAu5Zz108Ag88Ah7Ai28Aj15Ap4AsAxArAlAk2Ai155AaAb4Aj90Aa6Aj22Aa2Zz6Aa2Zz38Aa2Zz6Aa
    2Zz8AaZzAaZzAaZzAaZz31Aa2Zz53AaZz15AaZz14Aa2Zz6AaZz19Aa2Zz3AaZz9AaZz47AaAd23AaAf6Ad5Af2Ag2Ah
    Af7Ah5AfAjZz4Ao7AaAf2Zz27AaZz5Ah8Al3Zz11AaAbAc3Ad2Af4Ah3AkAlAn3ApAqAsAx15Zz18Aa2Ad7AfAh4AiAj
    15Zz57Aa2AdAgAh15AfAh2AiAj3Ak48AaAdAi4AjAk2Aq4Zz91Aa9Ad12Af242Aa14AfAaAd121AaAdAf30Ad52Af2Ag
    11Ah12AiAk11Al7Ap4ArAs37Aa2Ad3Ba22Zz11Aa21Zz139Aa20AfAg150Aa10Af80Aa8Ad8Af20Aa2Ag2AfAhAd86Aa
    2Ad12Af2Ah10Af8Ag11AhAj2Ak2Ag16AhAi10Aj3Ak4Aj10AkAl19AkAlAk4Al24AkAp4AaAl4Aa2Al28AaAl35AaAl
    AaAl4Aa3AlAaAk7Aa2Al7Aa14Af31Aa3Al24AaAl14AaAl7Ah4AiAmAjAm2Al28Af4Aj16Af256Ad512Af14Ag6Ah7Ai
    5Aj4Ai41Aj3Ap5Aj5Ak26Ap2Zz32ApZzAw34Ap3At12ApAu8ApAs25At4Aq15AtAu47AhAx47AhAx13Ai3AjAk3Aj4Ai
    6Aj2Ak107Ah7Ak2Am5Zz45AhZzAm5ZzAm2Zz54Ah2Am7ZzAhAl14ZzAl23Ah9Zz7AhZz7AhZz7AhZz7AhZz7AhZz7Ah
    Zz7AhZz7AhZz32Aj24Ah4Aj2Ah19AjAk10Am7Ap2Ar5As5AtAu3Aw11Ax34Zz26AdZz89Ad12Zz214Ad26Zz12Ad4Az
    56Aa3Ad3AfAdAaZz84Aa2Af2Zz6Aa2Af94AaAf5Zz40AaAjAsAtZz94AaZz16Aa24Ad3Al5Aw16Ah20Aj2Ba9ZzAz
    16Af29Aa2AgZz36Aa12AkAg15Af28Aa2AgAh50Aa15Af12Aa4Ag47AaAv119Aa4Ag99Aa2Ag31AaAg6582Ad10Aw64Ag
    20902Aa22Ah8Aj8AkAm9Aq21As5At13Aw3Ax1165Ad3Zz18Ad2Af16AdAf12AdAf3AdAfAd9Zz48Ak300Aj20Zz32Aj
    2Al18Aj8Am28Aj6ApAqAm88Ak8Zz23Ah4Ai5Aj2Ai107Aj2AlAq2Al2Am12Ap10AlAm3ApArAt2Ap6Aq2At6Au2Ax5Au
    4Aw3Ba2Zz2AxZzAxZz5Ax3Ba21Zz3Ax2AwAp2AmAl5Aj44AhAw3Zz10Ak6Zz56Ai8Zz69AjAr8Zz12Aj6Zz28Ak2Aq
    2At84Aj11ZzAj29Ak3Zz78AkZz11Ak4Zz2Ak31ApZz55Aj9Zz14Aj2Zz10Aj2Zz4Aj28Ak4Ap67Ak24Zz5Ak23Am10Zz
    6Al2Zz6Al2Zz6Al9Zz7AlZz7AlZz48Ap4Aq2Ap2Au4Aw4Zz80Aq46Ak2Zz10Ak6Zz11172Ab12Zz23Ak4Zz49Ak
    2052Zz6702Aa2Am59Af3Ak2Zz106Ah38Zz7Aa12Zz5Aa5ZzAd25AaZz5AaZzAaZz2AaZz2AaZz108Aa16AlAx16Zz
    365Aa16Ax64Aa2Zz54Aa7ZzAx32Ae12AaAfAg2Ax16Af10Ah6Zz4Aa3Aj7Ap2Aq21Aa2Af2Ag10AaZz19AaZz4Aa4Zz
    3AaAfAaZz135Aa2ZzAaZz94Aa2Af94Aa3Zz6Aa2Zz6Aa2Zz6Aa2Zz3Aa3Zz7AaZz7Aa10Zz3AdAc3Aa12AgZz26AgZz
    19AgZz2AgZz15Ag2Zz14Ag34Zz123Ag5Zz3Ag4Zz45Ag3Zz9Ag75Ah2Ap2ArZz12AjAw3ZzAp47Zz46Aj130Zz29Aj
    3Zz49Aj15Zz28Ap4Zz31AeAp4Ae9Zz3As27Ae5Zz43Ap5Zz30AgZzAg36Ah4Zz14Ah42Zz38Ae2Ag38Ae80Ag2Zz10Ag
    6Zz36Ar4Zz36Ar4Zz40Ap8Zz52Ap11ZzAp11AxZz15AxZz7AxZz2AxZz11AxZz15AxZz7AxZz2Ax3Zz52Ba12Zz311Ap
    9Zz22Ap10Zz8Ap24Zz6AxZz42AxZz9Ax69Zz6Ag2ZzAgZz44AgZz2Ag3ZzAg2ZzAg22AkZz9Ak63Ap8Zz9Ap48Zz19Aq
    Zz2Aq5Zz5Aq26Ai2Ak3ZzAi26Aj5ZzAj64Zz56Am4Zz2Aq2Am16Aq2Zz46Aq4AhZz2Ah5Zz8AhZz3AhZz27Ah2At2Zz
    3Ah4Zz9AhAt7Zz9Ah7Zz32Ak32Ap32Zz39Ap4Zz12Ap9Zz54Ak3Zz29Ak2Zz27Ak5Zz8Ak18Ap7Zz4Ap12Zz7Ap80Zz
    73Ak55Zz51Aq13Zz51Aq7Zz6Aq40At8Zz10At6Zz38Ba3Zz29Ba8Zz2Ba208Zz31AkZz42AwZz3Aw2Zz2Aw16Zz3Ba
    55ZzBa3Ay40At8Zz42At22Zz26Ax38Zz28Aw20Zz23Au9Zz78Al4Zz30Al6Ax9ZzAp66AkAx10ZzAt2Zz25Am7Zz10Am
    6Zz53AmZz14Am3AtAw8Zz39Ap9Zz73Am4AqAp2Aw10AmAp5AqZz20Ap11Zz18ApZz43ApAr3Ay62Zz7AqZzAqZz4AqZz
    15AqZz11Aq6Zz59Ap5Zz10Ap6ZzAq3ApZz8Ap2Zz2Ap2Zz22ApZz7ApZz2ApZz5ApZzAt9Ap2Zz2Ap2Zz3Ap2ZzAq6Zz
    Ap5Zz7Ap2Zz7Ap3Zz5Ap11Zz10BaZzBa2ZzBaZz38BaZz10BaZzBa2ZzBaZz4BaZz10BaZz2Ba8Zz2Ba29Zz90ArAwAr
    ZzArAtAu2Aw30Zz72Ap8Zz10Ap166Zz54Ap2Zz18Ap20Aq34Zz69Ap11Zz10Ap6Zz13Ar19Zz56AmAuAx6Zz10Am6Zz
    20Ba28Zz26AqAt2Zz15Aq4Zz16Aq7Ax185Zz60At100Zz83Ap12ZzAp7Aw2ZzAw2Zz8AwZz2AwZz30AwZz2Aw2Zz12Aw
    9Zz10Aw70Zz8Au2Zz46Au2Zz11Au27Zz72As8Zz52As2Au23AsAt5As13Zz16Ax57Ap7Zz10Ay182Zz34Ba14Zz10Ba
    6Zz9ArZz45ArZz14Ar10Zz29Ar3Zz32Ar2Zz22ArZz14Ar73Zz7AsZz2AsZz44As3ZzAsZz2AsZz9As8Zz10As6Zz6At
    Zz2AtZz37AtZz2AtZz6At7Zz10At310Zz25At7Zz17AyZz41Ay3Zz28AyBa85ZzAw15Zz50Au13ZzAu879Ai42ApAq
    102Zz99Ai12ApZz4AiAp11Zz196Aq2636Zz99Ax13Zz1071AkAy9Au29Ay10Zz3995Ba5Zz583Aq6841Zz58Ba1734Zz
    569Al7Zz31ApZz10Ap4Zz2Ap79AxZz10Ax6Zz30Ap2Zz6Ap10Zz70Ap10Zz10ApZz7ApZz21Ap5Zz19Ap432Zz58Ba
    198Zz91At101Zz69Am6Au4ZzAu47Am9Au7Zz17Am64ZzArAs2AuAw11Zz2Aw14Zz6125Ar5At6Au8Zz755Ar483Aw
    41ZzBa9Aw8935Zz4AxZz7AxZz2AxZz2Al285As4Ax15ZzAy29Zz3Au2ZzAy14Zz4Au8Zz396As2308Zz107Ap5Zz13Ap
    3Zz9Ap7Zz10Ap2Zz8Ap3932Zz250Ba6Zz436Ba76Zz46Ax2Zz23Ax9Zz116Ax60Zz246Ae10Zz39Ae2ZzAj180Ae11Aq
    2Ax21Zz70Ah122Zz20Ay12Zz20At12Zz87Ag9Zz18Ai7At135Zz85AeZz71AeZz2Ae2ZzAe2Zz2Ae2Zz4AeZz12AeZz
    AeZz4AeAg2AeZz65AeZz4Ae2Zz8AeZz7AeZz28AeZz4AeZz5AeZzAe3Zz7AeZz338Ae2Ah2Zz290Ae2Ai2Zz50Ae
    652Aq15Zz5AqZz15Aq1104Zz31Ax6Zz6Ay213Zz7ArZz17Ar2Zz7ArZz2ArZz5Ar5Zz62Ay33ZzAy112Zz45Au3Zz
    14Au2Zz10Au4Zz2Au320Zz31Ax17Zz58Au5ZzAu464Zz42Ay214Zz43Ba4ZzBa480Zz7AxZz4AxZz2AxZz15AxZz
    197Ap2Zz16Ap41Zz75ArAu4Zz10Ar4Zz2Ar785Zz68At76Zz61Au194Zz4AmZz27AmZz2AmZzAm2ZzAmZz10AmZz4Am
    ZzAmZzAm6ZzAm4ZzAmZzAmZzAmZz3AmZz2AmZzAm2ZzAmZzAmZzAmZzAmZzAmZz2AmZzAm2Zz4AmZz7AmZz4AmZz4Am
    ZzAmZz10AmZz17Am5Zz3AmZz5AmZz17Am52Zz2Am270Zz44Aj4Zz100Aj12Zz15Al2Zz14AlApZz15AlZz15Al22Ap
    10Zz11Ak2Ap3Aw31AkAtAlAk11AlAkAlAk2AlAk3AlAk3Al5Ak8AlAk7AlAk10Al2AmAu3Aw9AlAkAl2Ak2AlAk10Al
    4Ak2AlAk10Al18ArAw56Zz26AlAk2Al13Zz34Ak9AlAr4Zz9Ak7Zz2Al14Zz6As154Zz33Al12Ap3Aq6AlAp70AlAp
    2Aq20Al12Ap37AlAp5Al4Ap5Aq12Ap17Al7Ap8Aq63AlApAlAp182AlAp4Al2ApAq62Al2Ap4Am7Ap5Aq24Al18ApAr
    41ApAr86Ap5AlAm16AlAm3AlAmAlAmAlAmAlAm3AlAm6Al2Am4AlAmAl2Am4AlAm12Al2Ap2Aq11Al48Ap70Al10ApAq
    2Ar2AsAu2Aw4ZzAy3Ax13Ap3Zz4Ap3Ar2AsAtAu2Aw3Zz116Al3Ay4Zz5Ay85Ap4AtAy6Zz12Au4ZzAx15Zz12Ap4Zz
    56Ap8Zz10Ap6Zz40Ap8Zz30Ap2Zz2Aw10Ba4Zz2Ba62Zz12AsAw3Au9Aq6ArAs8Ar8AsAr2As12ArAu12ArAs3At15Ar
    13As5AtAuAw4At2AwAxAtAu4At5Aq13Ar6As11At2Aw6Au3Aw2Au10At6AuAq2At8AuAwAx3Au23As25At84Au12Zz
    14At2Zz4AuAw3Ay3Au2Ax3Zz3Au4Aw2AyBa5ZzBa6Au19Aw4Ax3Ay7Aw4Ax3AyBaAy3Aw3AxBa7Zz2Ay7Aw3Ax2AyBa
    2ZzBa8AxAyBa6Zz7Ax2Ay7Zz147AwZz55Aw37Ba10Aw1028Zz2Ab42711Ae7Aw2Ax32Zz4149Ak4AxAy6Zz222Al2Zz
    5762Aq14Zz7473As15Zz622Az2466Zz542Ae1504Zz2Ab4939Aw5Zz4192Ay56398Zz2Ab65534Zz2Ab65534Zz2Ab
    65534Zz2Ab65534Zz2Ab65534Zz2Ab65534Zz2Ab65534Zz2Ab65534Zz2Ab65534Zz2Ab65534Zz2AbZzAe30Zz96Ae
    128Zz240Ag65038Zz131074Ab"

def ofEdition? (number : String) : Option CharRanges :=
  if editions.any (·.2 == number) then
    let later := (editions.dropWhile (·.2 != number)).drop 1
    some (ages.where fun mark => mark != "Zz" && !later.any (·.1 == mark))
  else none

end RestDispatch.Text
