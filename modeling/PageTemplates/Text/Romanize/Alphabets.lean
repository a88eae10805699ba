import PageTemplates.Text.Romanize.Runs

/-!
# Readings of alphabets and signs

How the letters of alphabets and syllabaries, and signs such as quotes, fractions and units, are written in ASCII. The table
has a row for each run of neighbouring characters, with their readings in order; a character that has none, such as an
accent, stands there with an empty reading.
-/

namespace PageTemplates.Text.Romanize

/-- The first character of each run and the readings, a pilcrow between two of them. -/
def readingRows : List (Nat × String) := [
  (0x80, "¶¶¶¶¶¶¶¶¶¶¶¶¶¶¶¶¶¶¶¶¶¶¶¶¶¶¶¶¶¶¶¶ ¶!¶C/¶PS¶$?¶Y=¶|¶SS¶\"¶(c)¶a¶<<¶!¶¶(r)¶-¶deg¶+-¶2¶3¶'¶u¶P¶*¶,¶1¶o¶>>¶1/4¶1/2" ++
      "¶3/4¶?¶A¶A¶A¶A¶A¶A¶AE¶C¶E¶E¶E¶E¶I¶I¶I¶I¶D¶N¶O¶O¶O¶O¶O¶x¶O¶U¶U¶U¶U¶Y¶Th¶ss¶a¶a¶a¶a¶a¶a¶ae¶c¶e¶e¶e¶e¶i¶i¶i¶i¶d¶n" ++
      "¶o¶o¶o¶o¶o¶/¶o¶u¶u¶u¶u¶y¶th¶y¶A¶a¶A¶a¶A¶a¶C¶c¶C¶c¶C¶c¶C¶c¶D¶d¶D¶d¶E¶e¶E¶e¶E¶e¶E¶e¶E¶e¶G¶g¶G¶g¶G¶g¶G¶g¶H¶h¶H¶h¶I" ++
      "¶i¶I¶i¶I¶i¶I¶i¶I¶i¶IJ¶ij¶J¶j¶K¶k¶k¶L¶l¶L¶l¶L¶l¶L¶l¶L¶l¶N¶n¶N¶n¶N¶n¶'n¶NG¶ng¶O¶o¶O¶o¶O¶o¶OE¶oe¶R¶r¶R¶r¶R¶r¶S¶s¶S" ++
      "¶s¶S¶s¶S¶s¶T¶t¶T¶t¶T¶t¶U¶u¶U¶u¶U¶u¶U¶u¶U¶u¶U¶u¶W¶w¶Y¶y¶Y¶Z¶z¶Z¶z¶Z¶z¶s¶b¶B¶B¶b¶6¶6¶O¶C¶c¶D¶D¶D¶d¶d¶3¶@¶E¶F¶f¶G" ++
      "¶G¶hv¶I¶I¶K¶k¶l¶l¶W¶N¶n¶O¶O¶o¶OI¶oi¶P¶p¶YR¶2¶2¶SH¶sh¶t¶T¶t¶T¶U¶u¶Y¶V¶Y¶y¶Z¶z¶ZH¶ZH¶zh¶zh¶2¶5¶5¶ts¶w¶|¶||¶|=¶!" ++
      "¶DZ¶Dz¶dz¶LJ¶Lj¶lj¶NJ¶Nj¶nj¶A¶a¶I¶i¶O¶o¶U¶u¶U¶u¶U¶u¶U¶u¶U¶u¶@¶A¶a¶A¶a¶AE¶ae¶G¶g¶G¶g¶K¶k¶O¶o¶O¶o¶ZH¶zh¶j¶DZ¶Dz" ++
      "¶dz¶G¶g¶HV¶W¶N¶n¶A¶a¶AE¶ae¶O¶o¶A¶a¶A¶a¶E¶e¶E¶e¶I¶i¶I¶i¶O¶o¶O¶o¶R¶r¶R¶r¶U¶u¶U¶u¶S¶s¶T¶t¶Y¶y¶H¶h¶N¶d¶OU¶ou¶Z¶z¶A" ++
      "¶a¶E¶e¶O¶o¶O¶o¶O¶o¶O¶o¶Y¶y¶l¶n¶t¶j¶db¶qp¶A¶C¶c¶L¶T¶s¶z¶?¶?¶B¶U¶V¶E¶e¶J¶j¶Q¶q¶R¶r¶Y¶y¶a¶a¶a¶b¶o¶c¶d¶d¶e¶@¶@¶e¶e" ++
      "¶e¶e¶j¶g¶g¶g¶g¶u¶Y¶h¶h¶i¶i¶I¶l¶l¶l¶lZ¶W¶W¶m¶n¶n¶n¶o¶OE¶O¶F¶R¶R¶R¶R¶r¶r¶R¶R¶R¶s¶S¶j¶S¶S¶t¶t¶U¶U¶v¶^¶W¶Y¶Y¶z¶z¶Z" ++
      "¶Z¶?¶?¶?¶C¶@¶B¶E¶G¶H¶j¶k¶L¶q¶?¶?¶dz¶dZ¶dz¶ts¶tS¶tC¶fN¶ls¶lz¶WW¶]]¶h¶h¶k¶h¶j¶r¶r¶r¶r¶w¶y¶'¶\"¶`¶'¶`¶`¶'¶?¶?¶<¶>" ++
      "¶^¶V¶^¶V¶'¶-¶/¶\\¶,¶¶\\¶/¶:¶.¶`¶'¶^¶V¶+¶-¶V¶.¶@¶,¶~¶\"¶R¶X¶G¶l¶s¶x¶?¶¶¶¶¶¶¶¶V¶=¶\""),
  (0x300, "¶¶¶¶¶¶¶¶¶¶¶¶¶¶¶¶¶¶¶¶¶¶¶¶¶¶¶¶¶¶¶¶¶¶¶¶¶¶¶¶¶¶¶¶¶¶¶¶¶¶¶¶¶¶¶¶¶¶¶¶¶¶¶¶¶¶¶¶¶¶¶¶¶¶¶¶¶¶¶¶¶¶¶¶¶¶¶¶¶¶¶¶¶¶¶¶¶¶¶a¶e¶i¶o¶u¶c" ++
      "¶d¶h¶m¶r¶t¶v¶x¶¶¶¶¶'"),
  (0x37A, " ¶¶¶¶;"),
  (0x384, " ¶ ¶A¶*¶E¶E¶I¶¶O¶¶U¶O¶i¶A¶B¶G¶D¶E¶Z¶E¶Th¶I¶K¶L¶M¶N¶X¶O¶P¶R¶¶S¶T¶U¶Ph¶Kh¶Ps¶O¶I¶U¶a¶e¶e¶i¶u¶a¶b¶g¶d¶e¶z¶e¶th¶i¶k" ++
      "¶l¶m¶n¶x¶o¶p¶r¶s¶s¶t¶u¶ph¶kh¶ps¶o¶i¶u¶o¶u¶o¶¶b¶th¶U¶U¶U¶ph¶p¶¶¶¶St¶st¶W¶w¶Q¶q¶Sp¶sp¶Sh¶sh¶F¶f¶Kh¶kh¶H¶h¶G¶g¶CH" ++
      "¶ch¶Ti¶ti¶k¶r¶s¶j¶TH¶e¶¶¶¶S¶S¶s¶¶¶¶¶Ie¶Io¶Dj¶Gj¶E¶Dz¶I¶Yi¶J¶Lj¶Nj¶Tsh¶Kj¶I¶U¶Dzh¶A¶B¶V¶G¶D¶E¶Zh¶Z¶I¶I¶K¶L¶M¶N¶O" ++
      "¶P¶R¶S¶T¶U¶F¶Kh¶Ts¶Ch¶Sh¶Shch¶'¶Y¶'¶E¶Iu¶Ia¶a¶b¶v¶g¶d¶e¶zh¶z¶i¶i¶k¶l¶m¶n¶o¶p¶r¶s¶t¶u¶f¶kh¶ts¶ch¶sh¶shch¶'¶y¶'¶e" ++
      "¶iu¶ia¶ie¶io¶dj¶gj¶ie¶dz¶i¶yi¶j¶lj¶nj¶tsh¶kj¶i¶u¶dzh¶O¶o¶E¶e¶Ie¶ie¶E¶e¶Ie¶ie¶O¶o¶Io¶io¶Ks¶ks¶Ps¶ps¶F¶f¶Y¶y¶Y¶y" ++
      "¶u¶u¶O¶o¶O¶o¶Ot¶ot¶Q¶q¶¶¶¶¶¶¶¶¶I¶i¶¶¶R¶r¶G'¶g'¶G'¶g'¶G'¶g'¶Zh'¶zh'¶Z'¶z'¶K'¶k'¶K'¶k'¶K'¶k'¶K'¶k'¶N'¶n'¶Ng¶ng¶P'" ++
      "¶p'¶Kh¶kh¶S'¶s'¶T'¶t'¶U¶u¶U'¶u'¶Kh'¶kh'¶Tts¶tts¶Ch'¶ch'¶Ch'¶ch'¶H¶h¶Ch¶ch¶Ch'¶ch'¶`¶Zh¶zh¶K'¶k'¶L¶l¶N'¶n'¶N¶n" ++
      "¶Ch¶ch¶M¶m¶¶a¶a¶A¶a¶Ae¶ae¶E¶e¶@¶@¶@¶@¶Zh¶zh¶Z¶z¶Dz¶dz¶I¶i¶I¶i¶O¶o¶O¶o¶O¶o¶E¶e¶U¶u¶U¶u¶U¶u¶Ch¶ch¶Gh¶gh¶Y¶y¶Gh¶gh" ++
      "¶H¶h¶H¶h¶D¶d¶Dj¶dj¶Zj¶zj¶Dzj¶dzj¶Lj¶lj¶Nj¶nj¶Sj¶sj¶Tj¶tj¶A¶a¶L¶l¶Lh¶lh¶Rh¶rh¶Ya¶ya¶Q¶q¶W¶w¶K¶k¶L¶l¶N¶n¶P¶p¶H¶h" ++
      "¶N¶n¶Dz¶dz¶Dch¶dch¶L¶l¶¶A¶B¶G¶D¶E¶Z¶E¶E¶T`¶Zh¶I¶L¶Kh¶Ts¶K¶H¶Dz¶Gh¶Ch¶M¶Y¶N¶Sh¶O¶Ch`¶P¶J¶Rh¶S¶V¶T¶R¶Ts`¶W¶P`¶K`" ++
      "¶O¶F¶¶¶<¶'¶/¶!¶,¶?¶.¶¶a¶b¶g¶d¶e¶z¶e¶e¶t`¶zh¶i¶l¶kh¶ts¶k¶h¶dz¶gh¶ch¶m¶y¶n¶sh¶o¶ch`¶p¶j¶rh¶s¶v¶t¶r¶ts`¶w¶p`¶k`¶o" ++
      "¶f¶ew¶¶:¶-"),
  (0x591, "¶¶¶¶¶¶¶¶¶¶¶¶¶¶¶¶¶¶¶¶¶¶¶¶¶¶¶¶¶¶¶@¶e¶a¶o¶i¶e¶e¶a¶a¶o¶o¶u¶'¶¶-¶-¶|¶¶¶:¶"),
  (0x5D0, "A¶b¶g¶d¶h¶v¶z¶KH¶t¶y¶k¶k¶l¶m¶m¶n¶n¶s¶`¶p¶p¶TS¶TS¶q¶r¶SH¶t"),
  (0x5F0, "V¶oy¶i¶'¶\""),
  (0x60C, ","),
  (0x61B, ";¶¶¶¶?¶¶¶a¶'¶w'¶¶y'¶¶b¶@¶t¶th¶j¶H¶kh¶d¶dh¶r¶z¶s¶sh¶S¶D¶T¶Z¶`¶G"),
  (0x640, "¶f¶q¶k¶l¶m¶n¶h¶w¶~¶y¶an¶un¶in¶a¶u¶i¶W¶¶¶¶¶¶¶¶¶¶¶¶¶¶¶0¶1¶2¶3¶4¶5¶6¶7¶8¶9¶%¶.¶,¶*¶¶¶¶'¶'¶'¶'¶'¶'w¶'u¶'y¶tt¶tth¶b" ++
      "¶t¶T¶p¶th¶bh¶'h¶H¶ny¶dyeh¶H¶ch¶cch¶dd¶D¶D¶Dt¶dh¶ddh¶d¶D¶D¶rr¶R¶R¶R¶R¶R¶R¶j¶R¶S¶S¶S¶S¶S¶T¶GH¶F¶F¶F¶v¶f¶ph¶Q¶Q¶kh" ++
      "¶k¶K¶K¶ng¶K¶g¶G¶N¶G¶G¶G¶L¶L¶L¶L¶N¶N¶N¶N¶N¶h¶Ch¶hy¶h¶H¶@¶W¶oe¶oe¶u¶yu¶yu¶W¶v¶y¶Y¶Y¶W¶¶¶y¶y'¶.¶ae¶¶¶¶¶¶¶¶@¶#¶¶¶¶¶" ++
      "¶¶¶¶¶¶^¶¶¶¶¶¶¶0¶1¶2¶3¶4¶5¶6¶7¶8¶9¶Sh¶D¶Gh¶&¶+m¶¶//¶/¶,¶!¶!¶-¶,¶,¶;¶?¶~¶\x7b¶\x7d¶*¶¶¶¶¶b¶g¶g¶d¶d¶h¶w¶z¶H¶t¶t¶y" ++
      "¶yh¶k¶l¶m¶n¶s¶s¶`¶p¶p¶S¶q¶r¶sh¶t¶¶¶¶a¶a¶a¶A¶A¶A¶e¶e¶e¶E¶i¶i¶u¶u¶u¶o¶¶`¶'¶¶¶X¶Q¶@¶@¶|¶+"),
  (0x780, "h¶sh¶n¶r¶b¶L¶k¶'¶v¶m¶f¶dh¶th¶l¶g¶ny¶s¶d¶z¶t¶y¶p¶j¶ch¶tt¶hh¶kh¶th¶z¶sh¶s¶d¶t¶z¶`¶gh¶q¶w¶a¶aa¶i¶ee¶u¶oo¶e¶ey¶o¶oa" ++
      "¶"),
  (0x901, "N¶N¶H¶¶a¶aa¶i¶ii¶u¶uu¶R¶L¶eN¶e¶e¶ai¶oN¶o¶o¶au¶k¶kh¶g¶gh¶ng¶c¶ch¶j¶jh¶ny¶tt¶tth¶dd¶ddh¶nn¶t¶th¶d¶dh¶n¶nnn¶p¶ph¶b" ++
      "¶bh¶m¶y¶r¶rr¶l¶l¶lll¶v¶sh¶ss¶s¶h¶¶¶'¶'¶aa¶i¶ii¶u¶uu¶R¶RR¶eN¶e¶e¶ai¶oN¶o¶o¶au¶¶¶¶AUM¶'¶'¶`¶'¶¶¶¶q¶khh¶ghh¶z¶dddh" ++
      "¶rh¶f¶yy¶RR¶LL¶L¶LL¶ / ¶ // ¶0¶1¶2¶3¶4¶5¶6¶7¶8¶9¶."),
  (0x981, "N¶N¶H¶¶a¶aa¶i¶ii¶u¶uu¶R¶RR¶¶¶e¶ai¶¶¶o¶au¶k¶kh¶g¶gh¶ng¶c¶ch¶j¶jh¶ny¶tt¶tth¶dd¶ddh¶nn¶t¶th¶d¶dh¶n¶¶p¶ph¶b¶bh¶m¶y" ++
      "¶r¶¶l¶¶¶¶sh¶ss¶s¶h¶¶¶'¶'¶aa¶i¶ii¶u¶uu¶R¶RR¶¶¶e¶ai¶¶¶o¶au¶¶t"),
  (0x9D7, "+¶¶¶¶¶rr¶rh¶¶yy¶RR¶LL¶L¶LL¶¶¶0¶1¶2¶3¶4¶5¶6¶7¶8¶9¶r'¶r`¶Rs¶Rs¶1/¶2/¶3/¶4/¶ 1 - 1/¶/16¶"),
  (0xA01, "N¶N¶¶¶a¶aa¶i¶ii¶u¶uu¶¶¶¶¶ee¶ai¶¶¶oo¶au¶k¶kh¶g¶gh¶ng¶c¶ch¶j¶jh¶ny¶tt¶tth¶dd¶ddh¶nn¶t¶th¶d¶dh¶n¶¶p¶ph¶b¶bb¶m¶y¶r¶" ++
      "¶l¶ll¶¶v¶sh¶¶s¶h¶¶¶'¶¶aa¶i¶ii¶u¶uu¶¶¶¶¶ee¶ai¶¶¶oo¶au¶"),
  (0xA59, "khh¶ghh¶z¶rr¶¶f"),
  (0xA66, "0¶1¶2¶3¶4¶5¶6¶7¶8¶9¶N¶H¶¶¶G.E.O."),
  (0xA81, "N¶N¶H¶¶a¶aa¶i¶ii¶u¶uu¶R¶L¶eN¶¶e¶ai¶oN¶¶o¶au¶k¶kh¶g¶gh¶ng¶c¶ch¶j¶jh¶ny¶tt¶tth¶dd¶ddh¶nn¶t¶th¶d¶dh¶n¶¶p¶ph¶b¶bh¶m" ++
      "¶ya¶r¶¶l¶ll¶¶v¶sh¶ss¶s¶h¶¶¶'¶'¶aa¶i¶ii¶u¶uu¶R¶RR¶eN¶¶e¶ai¶oN¶¶o¶au¶¶¶¶AUM"),
  (0xAE0, "RR¶LL¶L¶LL¶¶¶0¶1¶2¶3¶4¶5¶6¶7¶8¶9"),
  (0xB01, "N'¶N¶H¶¶a¶aa¶i¶ii¶u¶uu¶R¶L¶¶¶e¶ai¶¶¶o¶au¶k¶kh¶g¶gh¶ng¶c¶ch¶j¶jh¶ny¶tt¶tth¶dd¶ddh¶nn¶t¶th¶d¶dh¶n¶¶p¶ph¶b¶bh¶m¶y" ++
      "¶r¶¶l¶ll¶¶v¶sh¶ss¶s¶h¶¶¶'¶'¶aa¶i¶ii¶u¶uu¶R¶RR¶¶¶e¶ai¶¶¶o¶au¶"),
  (0xB56, "+¶+¶¶¶¶¶rr¶rh¶¶yy¶RR¶LL¶L¶LL¶¶¶0¶1¶2¶3¶4¶5¶6¶7¶8¶9"),
  (0xB82, "N¶H¶¶a¶aa¶i¶ii¶u¶uu¶¶¶¶e¶ee¶ai¶¶o¶oo¶au¶k¶¶¶¶ng¶c¶¶j¶¶ny¶tt¶¶¶¶nn¶t¶¶¶¶n¶nnn¶p¶¶¶¶m¶y¶r¶rr¶l¶ll¶lll¶v¶sh¶ss¶s¶h" ++
      "¶¶¶¶¶aa¶i¶ii¶u¶uu¶¶¶¶e¶ee¶ai¶¶o¶oo¶au¶¶¶¶AUM"),
  (0xBD7, "+"),
  (0xBE6, "0¶1¶2¶3¶4¶5¶6¶7¶8¶9¶+10+¶+100+¶+1000+"),
  (0xC01, "N¶N¶H¶¶a¶aa¶i¶ii¶u¶uu¶R¶L¶¶e¶ee¶ai¶¶o¶oo¶au¶k¶kh¶g¶gh¶ng¶c¶ch¶j¶jh¶ny¶tt¶tth¶dd¶ddh¶nn¶t¶th¶d¶dh¶n¶¶p¶ph¶b¶bh¶m" ++
      "¶y¶r¶rr¶l¶ll¶lll¶v¶sh¶ss¶s¶h¶¶¶'¶'¶aa¶i¶ii¶u¶uu¶R¶RR¶¶e¶ee¶ai¶¶o¶oo¶au¶"),
  (0xC55, "+¶+"),
  (0xC60, "RR¶LL¶L¶LL¶¶¶0¶1¶2¶3¶4¶5¶6¶7¶8¶9"),
  (0xC81, "N¶N¶H¶¶a¶aa¶i¶ii¶u¶uu¶R¶L¶¶e¶ee¶ai¶¶o¶oo¶au¶k¶kh¶g¶gh¶ng¶c¶ch¶j¶jh¶ny¶tt¶tth¶dd¶ddh¶nn¶t¶th¶d¶dh¶n¶¶p¶ph¶b¶bh¶m" ++
      "¶y¶r¶rr¶l¶ll¶¶v¶sh¶ss¶s¶h¶¶¶'¶'¶aa¶i¶ii¶u¶uu¶R¶RR¶¶e¶ee¶ai¶¶o¶oo¶au¶"),
  (0xCD5, "+¶+"),
  (0xCDE, "lll¶¶RR¶LL¶L¶LL¶¶¶0¶1¶2¶3¶4¶5¶6¶7¶8¶9"),
  (0xD01, "N¶N¶H¶¶a¶aa¶i¶ii¶u¶uu¶R¶L¶¶e¶ee¶ai¶¶o¶oo¶au¶k¶kh¶g¶gh¶ng¶c¶ch¶j¶jh¶ny¶tt¶tth¶dd¶ddh¶nn¶t¶th¶d¶dh¶n¶nnn¶p¶ph¶b" ++
      "¶bh¶m¶y¶r¶rr¶l¶ll¶lll¶v¶sh¶ss¶s¶h¶¶¶'¶'¶aa¶i¶ii¶u¶uu¶R¶RR¶¶e¶ee¶ai¶¶o¶oo¶au¶"),
  (0xD55, "+¶+¶+"),
  (0xD60, "RR¶LL¶L¶LL¶¶¶0¶1¶2¶3¶4¶5¶6¶7¶8¶9"),
  (0xD82, "N¶H¶¶a¶aa¶ae¶aae¶i¶ii¶u¶uu¶R¶RR¶L¶LL¶e¶ee¶ai¶o¶oo¶au¶¶¶¶k¶kh¶g¶gh¶ng¶nng¶c¶ch¶j¶jh¶ny¶jny¶nyj¶tt¶tth¶dd¶ddh¶nn" ++
      "¶nndd¶t¶th¶d¶dh¶n¶¶nd¶p¶ph¶b¶bh¶m¶mb¶y¶r¶¶l¶¶¶v¶sh¶ss¶s¶h¶ll¶f¶¶¶¶¶¶¶¶¶aa¶ae¶aae¶i¶ii¶u¶¶uu¶¶R¶e¶ee¶ai¶o¶oo¶au" ++
      "¶L"),
  (0xDF2, "RR¶LL¶ . "),
  (0xE01, "k¶kh¶kh¶kh¶kh¶kh¶ng¶c¶ch¶ch¶s¶ch¶y¶d¶t¶th¶th¶th¶n¶d¶t¶th¶th¶th¶n¶b¶p¶ph¶f¶ph¶f¶ph¶m¶y¶r¶R¶l¶L¶w¶s¶s¶s¶h¶l¶`¶h¶~" ++
      "¶a¶a¶aa¶am¶i¶ii¶ue¶uue¶u¶uu¶'¶¶¶¶¶Bh.¶e¶ae¶o¶ai¶ai¶ao¶+¶¶¶¶¶¶¶M¶¶ * ¶0¶1¶2¶3¶4¶5¶6¶7¶8¶9¶ // ¶ /// "),
  (0xE81, "k¶kh¶¶kh¶¶¶ng¶ch¶¶s¶¶¶ny¶¶¶¶¶¶¶d¶h¶th¶th¶¶n¶b¶p¶ph¶f¶ph¶f¶¶m¶y¶r¶¶l¶¶w¶¶¶s¶h¶¶`¶¶~¶a¶¶aa¶am¶i¶ii¶y¶yy¶u¶uu¶¶o¶l" ++
      "¶ny¶¶¶e¶ei¶o¶ay¶ai¶¶+¶¶¶¶¶¶¶M¶¶¶0¶1¶2¶3¶4¶5¶6¶7¶8¶9¶¶¶hn¶hm"),
  (0xF00, "AUM"),
  (0xF08, " // ¶ * ¶¶-¶ / ¶ / ¶ // ¶ -/ ¶ +/ ¶ X/ ¶ /XX/ ¶ /X/ ¶, "),
  (0xF20, "0¶1¶2¶3¶4¶5¶6¶7¶8¶9¶.5¶1.5¶2.5¶3.5¶4.5¶5.5¶6.5¶7.5¶8.5¶-.5¶+¶*¶^¶¶¶~¶¶]¶[[¶]]¶¶¶k¶kh¶g¶gh¶ng¶c¶ch¶j¶¶ny¶tt¶tth" ++
      "¶dd¶ddh¶nn¶t¶th¶d¶dh¶n¶p¶ph¶b¶bh¶m¶ts¶tsh¶dz¶dzh¶w¶zh¶z¶'¶y¶r¶l¶sh¶ssh¶s¶h¶a¶kss¶r"),
  (0xF71, "aa¶i¶ii¶u¶uu¶R¶RR¶L¶LL¶e¶ee¶o¶oo¶M¶H¶i¶ii"),
  (0xF90, "k¶kh¶g¶gh¶ng¶c¶ch¶j¶¶ny¶tt¶tth¶dd¶ddh¶nn¶t¶th¶d¶dh¶n¶p¶ph¶b¶bh¶m¶ts¶tsh¶dz¶dzh¶w¶zh¶z¶'¶y¶r¶l¶sh¶ss¶s¶h¶a¶kss¶w" ++
      "¶y¶r¶¶X¶ :X: ¶ /O/ ¶ /o/ ¶ \\o\\ ¶ (O) "),
  (0x1000, "k¶kh¶g¶gh¶ng¶c¶ch¶j¶jh¶ny¶nny¶tt¶tth¶dd¶ddh¶nn¶tt¶th¶d¶dh¶n¶p¶ph¶b¶bh¶m¶y¶r¶l¶w¶s¶h¶ll¶a¶¶i¶ii¶u¶uu¶e¶¶o¶au¶¶aa" ++
      "¶i¶ii¶u¶uu¶e¶ai¶¶¶¶N¶'¶:¶¶¶y¶r¶w¶h¶s¶0¶1¶2¶3¶4¶5¶6¶7¶8¶9¶ / ¶ // ¶n*¶r*¶l*¶e*¶sh¶ss¶R¶RR¶L¶LL¶R¶RR¶L¶LL"),
  (0x10A0, "A¶B¶G¶D¶E¶V¶Z¶T`¶I¶K¶L¶M¶N¶O¶P¶Zh¶R¶S¶T¶U¶P`¶K`¶G'¶Q¶Sh¶Ch`¶C`¶Z'¶C¶Ch'¶X¶J¶H¶E¶Y¶W¶Xh¶OE"),
  (0x10D0, "a¶b¶g¶d¶e¶v¶z¶t`¶i¶k¶l¶m¶n¶o¶p¶zh¶r¶s¶t¶u¶p`¶k`¶g'¶q¶sh¶ch`¶c`¶z'¶c¶ch'¶x¶j¶h¶e¶y¶w¶xh¶oe¶f"),
  (0x1100, "g¶gg¶n¶d¶dd¶r¶m¶b¶bb¶s¶ss¶¶j¶jj¶c¶k¶t¶p¶h¶ng¶nn¶nd¶nb¶dg¶rn¶rr¶rh¶rN¶mb¶mN¶bg¶bn¶¶bs¶bsg¶bst¶bsb¶bss¶bsj¶bj¶bc" ++
      "¶bt¶bp¶bN¶bbN¶sg¶sn¶sd¶sr¶sm¶sb¶sbg¶sss¶s¶sj¶sc¶sk¶st¶sp¶sh¶¶¶¶¶Z¶g¶d¶m¶b¶s¶Z¶¶j¶c¶t¶p¶N¶j¶¶¶¶¶ck¶ch¶¶¶pb¶pN¶hh" ++
      "¶Q"),
  (0x1161, "a¶ae¶ya¶yae¶eo¶e¶yeo¶ye¶o¶wa¶wae¶oe¶yo¶u¶weo¶we¶wi¶yu¶eu¶yi¶i¶a-o¶a-u¶ya-o¶ya-yo¶eo-o¶eo-u¶eo-eu¶yeo-o¶yeo-u" ++
      "¶o-eo¶o-e¶o-ye¶o-o¶o-u¶yo-ya¶yo-yae¶yo-yeo¶yo-o¶yo-i¶u-a¶u-ae¶u-eo-eu¶u-ye¶u-u¶yu-a¶yu-eo¶yu-e¶yu-yeo¶yu-ye" ++
      "¶yu-u¶yu-i¶eu-u¶eu-eu¶yi-u¶i-a¶i-ya¶i-o¶i-u¶i-eu¶i-U¶U¶U-eo¶U-u¶U-i¶UU"),
  (0x11A8, "g¶gg¶gs¶n¶nj¶nh¶d¶l¶lg¶lm¶lb¶ls¶lt¶lp¶lh¶m¶b¶bs¶s¶ss¶ng¶j¶c¶k¶t¶p¶h¶gl¶gsg¶ng¶nd¶ns¶nZ¶nt¶dg¶tl¶lgs¶ln¶ld¶lth" ++
      "¶ll¶lmg¶lms¶lbs¶lbh¶rNp¶lss¶lZ¶lk¶lQ¶mg¶ml¶mb¶ms¶mss¶mZ¶mc¶mh¶mN¶bl¶bp¶ph¶pN¶sg¶sd¶sl¶sb¶Z¶g¶ss¶¶kh¶N¶Ns¶NZ¶pb" ++
      "¶pN¶hn¶hl¶hm¶hb¶Q"),
  (0x1200, "ha¶hu¶hi¶haa¶hee¶he¶ho¶hoa¶la¶lu¶li¶laa¶lee¶le¶lo¶lwa¶hha¶hhu¶hhi¶hhaa¶hhee¶hhe¶hho¶hhwa¶ma¶mu¶mi¶maa¶mee¶me¶mo" ++
      "¶mwa¶sza¶szu¶szi¶szaa¶szee¶sze¶szo¶szwa¶ra¶ru¶ri¶raa¶ree¶re¶ro¶rwa¶sa¶su¶si¶saa¶see¶se¶so¶swa¶sha¶shu¶shi¶shaa" ++
      "¶shee¶she¶sho¶shwa¶qa¶qu¶qi¶qaa¶qee¶qe¶qo¶qoa¶qwa¶¶qwi¶qwaa¶qwee¶qwe¶¶¶qha¶qhu¶qhi¶qhaa¶qhee¶qhe¶qho¶¶qhwa¶" ++
      "¶qhwi¶qhwaa¶qhwee¶qhwe¶¶¶ba¶bu¶bi¶baa¶bee¶be¶bo¶bwa¶va¶vu¶vi¶vaa¶vee¶ve¶vo¶vwa¶ta¶tu¶ti¶taa¶tee¶te¶to¶twa¶ca¶cu" ++
      "¶ci¶caa¶cee¶ce¶co¶cwa¶xa¶xu¶xi¶xaa¶xee¶xe¶xo¶xoa¶xwa¶¶xwi¶xwaa¶xwee¶xwe¶¶¶na¶nu¶ni¶naa¶nee¶ne¶no¶nwa¶nya¶nyu" ++
      "¶nyi¶nyaa¶nyee¶nye¶nyo¶nywa¶a¶u¶i¶aa¶ee¶e¶o¶wa¶ka¶ku¶ki¶kaa¶kee¶ke¶ko¶koa¶kwa¶¶kwi¶kwaa¶kwee¶kwe¶¶¶kxa¶kxu¶kxi" ++
      "¶kxaa¶kxee¶kxe¶kxo¶¶kxwa¶¶kxwi¶kxwaa¶kxwee¶kxwe¶¶¶wa¶wu¶wi¶waa¶wee¶we¶wo¶woa¶`a¶`u¶`i¶`aa¶`ee¶`e¶`o¶¶za¶zu¶zi" ++
      "¶zaa¶zee¶ze¶zo¶zwa¶zha¶zhu¶zhi¶zhaa¶zhee¶zhe¶zho¶zhwa¶ya¶yu¶yi¶yaa¶yee¶ye¶yo¶yoa¶da¶du¶di¶daa¶dee¶de¶do¶dwa¶dda" ++
      "¶ddu¶ddi¶ddaa¶ddee¶dde¶ddo¶ddwa¶ja¶ju¶ji¶jaa¶jee¶je¶jo¶jwa¶ga¶gu¶gi¶gaa¶gee¶ge¶go¶goa¶gwa¶¶gwi¶gwaa¶gwee¶gwe¶¶" ++
      "¶gga¶ggu¶ggi¶ggaa¶ggee¶gge¶ggo¶ggwaa¶tha¶thu¶thi¶thaa¶thee¶the¶tho¶thwa¶cha¶chu¶chi¶chaa¶chee¶che¶cho¶chwa¶pha" ++
      "¶phu¶phi¶phaa¶phee¶phe¶pho¶phwa¶tsa¶tsu¶tsi¶tsaa¶tsee¶tse¶tso¶tswa¶tza¶tzu¶tzi¶tzaa¶tzee¶tze¶tzo¶tzoa¶fa¶fu¶fi" ++
      "¶faa¶fee¶fe¶fo¶fwa¶pa¶pu¶pi¶paa¶pee¶pe¶po¶pwa¶rya¶mya¶fya"),
  (0x1361, " ¶.¶,¶;¶:¶::¶?¶//¶1¶2¶3¶4¶5¶6¶7¶8¶9¶10+¶20+¶30+¶40+¶50+¶60+¶70+¶80+¶90+¶100+¶10,000+¶¶¶¶mwa¶mwi¶mwee¶mwe¶bwa" ++
      "¶bwi¶bwee¶bwe¶fwa¶fwi¶fwee¶fwe¶pwa¶pwi¶pwee¶pwe"),
  (0x13A0, "a¶e¶i¶o¶u¶v¶ga¶ka¶ge¶gi¶go¶gu¶gv¶ha¶he¶hi¶ho¶hu¶hv¶la¶le¶li¶lo¶lu¶lv¶ma¶me¶mi¶mo¶mu¶na¶hna¶nah¶ne¶ni¶no¶nu¶nv" ++
      "¶qua¶que¶qui¶quo¶quu¶quv¶sa¶s¶se¶si¶so¶su¶sv¶da¶ta¶de¶te¶di¶ti¶do¶du¶dv¶dla¶tla¶tle¶tli¶tlo¶tlu¶tlv¶tsa¶tse¶tsi" ++
      "¶tso¶tsu¶tsv¶wa¶we¶wi¶wo¶wu¶wv¶ya¶ye¶yi¶yo¶yu¶yv¶mv¶¶¶ye¶yi¶yo¶yu¶yv¶mv¶¶¶¶e¶aai¶i¶ii¶o¶oo¶oo¶ee¶i¶a¶aa¶we¶we" ++
      "¶wi¶wi¶wii¶wii¶wo¶wo¶woo¶woo¶woo¶wa¶wa¶waa¶waa¶waa¶ai¶w¶¶t¶k¶sh¶s¶n¶w¶n¶¶w¶c¶¶l¶en¶in¶on¶an¶pe¶paai¶pi¶pii¶po" ++
      "¶poo¶poo¶hee¶hi¶pa¶paa¶pwe¶pwe¶pwi¶pwi¶pwii¶pwii¶pwo¶pwo¶pwoo¶pwoo¶pwa¶pwa¶pwaa¶pwaa¶pwaa¶p¶p¶h¶te¶taai¶ti¶tii" ++
      "¶to¶too¶too¶dee¶di¶ta¶taa¶twe¶twe¶twi¶twi¶twii¶twii¶two¶two¶twoo¶twoo¶twa¶twa¶twaa¶twaa¶twaa¶t¶tte¶tti¶tto¶tta" ++
      "¶ke¶kaai¶ki¶kii¶ko¶koo¶koo¶ka¶kaa¶kwe¶kwe¶kwi¶kwi¶kwii¶kwii¶kwo¶kwo¶kwoo¶kwoo¶kwa¶kwa¶kwaa¶kwaa¶kwaa¶k¶kw¶keh" ++
      "¶kih¶koh¶kah¶ce¶caai¶ci¶cii¶co¶coo¶coo¶ca¶caa¶cwe¶cwe¶cwi¶cwi¶cwii¶cwii¶cwo¶cwo¶cwoo¶cwoo¶cwa¶cwa¶cwaa¶cwaa" ++
      "¶cwaa¶c¶th¶me¶maai¶mi¶mii¶mo¶moo¶moo¶ma¶maa¶mwe¶mwe¶mwi¶mwi¶mwii¶mwii¶mwo¶mwo¶mwoo¶mwoo¶mwa¶mwa¶mwaa¶mwaa¶mwaa" ++
      "¶m¶m¶mh¶m¶m¶ne¶naai¶ni¶nii¶no¶noo¶noo¶na¶naa¶nwe¶nwe¶nwa¶nwa¶nwaa¶nwaa¶nwaa¶n¶ng¶nh¶le¶laai¶li¶lii¶lo¶loo¶loo" ++
      "¶la¶laa¶lwe¶lwe¶lwi¶lwi¶lwii¶lwii¶lwo¶lwo¶lwoo¶lwoo¶lwa¶lwa¶lwaa¶lwaa¶l¶l¶l¶se¶saai¶si¶sii¶so¶soo¶soo¶sa¶saa" ++
      "¶swe¶swe¶swi¶swi¶swii¶swii¶swo¶swo¶swoo¶swoo¶swa¶swa¶swaa¶swaa¶swaa¶s¶s¶sw¶s¶sk¶skw¶s-w¶spwa¶stwa¶skwa¶scwa¶she" ++
      "¶shi¶shii¶sho¶shoo¶sha¶shaa¶shwe¶shwe¶shwi¶shwi¶shwii¶shwii¶shwo¶shwo¶shwoo¶shwoo¶shwa¶shwa¶shwaa¶shwaa¶sh¶ye" ++
      "¶yaai¶yi¶yii¶yo¶yoo¶yoo¶ya¶yaa¶ywe¶ywe¶ywi¶ywi¶ywii¶ywii¶ywo¶ywo¶ywoo¶ywoo¶ywa¶ywa¶ywaa¶ywaa¶ywaa¶y¶y¶y¶yi¶re" ++
      "¶re¶le¶raai¶ri¶rii¶ro¶roo¶lo¶ra¶raa¶la¶rwaa¶rwaa¶r¶r¶r¶fe¶faai¶fi¶fii¶fo¶foo¶fa¶faa¶fwaa¶fwaa¶f¶the¶the¶thi¶thi" ++
      "¶thii¶thii¶tho¶thoo¶tha¶thaa¶thwaa¶thwaa¶th¶tthe¶tthi¶ttho¶ttha¶tth¶tye¶tyi¶tyo¶tya¶he¶hi¶hii¶ho¶hoo¶ha¶haa¶h¶h" ++
      "¶hk¶qaai¶qi¶qii¶qo¶qoo¶qa¶qaa¶q¶tlhe¶tlhi¶tlho¶tlha¶re¶ri¶ro¶ra¶ngaai¶ngi¶ngii¶ngo¶ngoo¶nga¶ngaa¶ng¶nng¶she¶shi" ++
      "¶sho¶sha¶the¶thi¶tho¶tha¶th¶lhi¶lhii¶lho¶lhoo¶lha¶lhaa¶lh¶the¶thi¶thii¶tho¶thoo¶tha¶thaa¶th¶b¶e¶i¶o¶a¶we¶wi¶wo" ++
      "¶wa¶ne¶ni¶no¶na¶ke¶ki¶ko¶ka¶he¶hi¶ho¶ha¶ghu¶gho¶ghe¶ghee¶ghi¶gha¶ru¶ro¶re¶ree¶ri¶ra¶wu¶wo¶we¶wee¶wi¶wa¶hwu¶hwo" ++
      "¶hwe¶hwee¶hwi¶hwa¶thu¶tho¶the¶thee¶thi¶tha¶ttu¶tto¶tte¶ttee¶tti¶tta¶pu¶po¶pe¶pee¶pi¶pa¶p¶gu¶go¶ge¶gee¶gi¶ga¶khu" ++
      "¶kho¶khe¶khee¶khi¶kha¶kku¶kko¶kke¶kkee¶kki¶kka¶kk¶nu¶no¶ne¶nee¶ni¶na¶mu¶mo¶me¶mee¶mi¶ma¶yu¶yo¶ye¶yee¶yi¶ya¶ju" ++
      "¶ju¶jo¶je¶jee¶ji¶ji¶ja¶jju¶jjo¶jje¶jjee¶jji¶jja¶lu¶lo¶le¶lee¶li¶la¶dlu¶dlo¶dle¶dlee¶dli¶dla¶lhu¶lho¶lhe¶lhee" ++
      "¶lhi¶lha¶tlhu¶tlho¶tlhe¶tlhee¶tlhi¶tlha¶tlu¶tlo¶tle¶tlee¶tli¶tla¶zu¶zo¶ze¶zee¶zi¶za¶z¶z¶dzu¶dzo¶dze¶dzee¶dzi" ++
      "¶dza¶su¶so¶se¶see¶si¶sa¶shu¶sho¶she¶shee¶shi¶sha¶sh¶tsu¶tso¶tse¶tsee¶tsi¶tsa¶chu¶cho¶che¶chee¶chi¶cha¶ttsu¶ttso" ++
      "¶ttse¶ttsee¶ttsi¶ttsa¶¶¶qai¶ngai¶nngi¶nngii¶nngo¶nngoo¶nnga¶nngaa"),
  (0x1680, " ¶b¶l¶f¶s¶n¶h¶d¶t¶c¶q¶m¶g¶ng¶z¶r¶a¶o¶u¶e¶i¶ch¶th¶ph¶p¶x¶p¶<¶>¶¶¶¶f¶v¶u¶yr¶y¶w¶th¶th¶a¶o¶ac¶ae¶o¶o¶o¶oe¶on¶r¶k¶c" ++
      "¶k¶g¶ng¶g¶g¶w¶h¶h¶h¶h¶n¶n¶n¶i¶e¶j¶g¶ae¶a¶eo¶p¶z¶s¶s¶s¶c¶z¶t¶t¶d¶b¶b¶p¶p¶e¶m¶m¶m¶l¶l¶ng¶ng¶d¶o¶ear¶ior¶qu¶qu¶qu" ++
      "¶s¶yr¶yr¶yr¶q¶x¶.¶:¶+¶17¶18¶19"),
  (0x1700, "a¶i¶u¶ka¶ga¶nga¶ta¶da¶na¶pa¶ba¶ma¶ya¶ra¶la¶wa¶sa¶ha¶i¶u"),
  (0x1720, "a¶i¶u¶ka¶ga¶nga¶ta¶da¶na¶pa¶ba¶ma¶ya¶ra¶la¶wa¶sa¶ha¶i¶u"),
  (0x1740, "a¶i¶u¶ka¶ga¶nga¶ta¶da¶na¶pa¶ba¶ma¶ya¶ra¶la¶wa¶sa¶ha¶i¶u"),
  (0x1760, "a¶i¶u¶ka¶ga¶nga¶ta¶da¶na¶pa¶ba¶ma¶ya¶ra¶la¶wa¶sa¶ha¶i¶u"),
  (0x1780, "k¶kh¶g¶gh¶ng¶c¶ch¶j¶jh¶ny¶t¶tth¶d¶ddh¶nn¶t¶th¶d¶dh¶n¶p¶ph¶b¶bh¶m¶y¶r¶l¶v¶sh¶ss¶s¶h¶l¶q¶a¶aa¶i¶ii¶u¶uk¶uu¶uuv¶ry" ++
      "¶ryy¶ly¶lyy¶e¶ai¶oo¶oo¶au¶a¶aa¶aa¶i¶ii¶y¶yy¶u¶uu¶ua¶oe¶ya¶ie¶e¶ae¶ai¶oo¶au¶M¶H¶a`¶¶¶¶r¶¶!¶¶¶¶¶¶.¶ // ¶:¶+¶++" ++
      "¶ * ¶ /// ¶KR¶'¶¶¶¶0¶1¶2¶3¶4¶5¶6¶7¶8¶9"),
  (0x1800, " @ ¶ ... ¶,¶. ¶: ¶ // ¶¶-¶,¶. "),
  (0x1810, "0¶1¶2¶3¶4¶5¶6¶7¶8¶9"),
  (0x1820, "a¶e¶i¶o¶u¶O¶U¶ee¶n¶ng¶b¶p¶q¶g¶m¶l¶s¶sh¶t¶d¶ch¶j¶y¶r¶w¶f¶k¶kha¶ts¶z¶h¶zr¶lh¶zh¶ch¶-¶e¶i¶o¶u¶O¶U¶ng¶b¶p¶q¶g¶m¶t¶d" ++
      "¶ch¶j¶ts¶y¶w¶k¶g¶h¶jy¶ny¶dz¶e¶i¶iy¶U¶u¶ng¶k¶g¶h¶p¶sh¶t¶d¶j¶f¶g¶h¶ts¶z¶r¶ch¶zh¶i¶k¶r¶f¶zh"),
  (0x1880, "H¶X¶W¶M¶ 3 ¶ 333 ¶¶i¶k¶ng¶c¶tt¶tth¶dd¶nn¶t¶d¶p¶ph¶ss¶zh¶z¶a¶t¶zh¶gh¶ng¶c¶jh¶tta¶ddh¶t¶dh¶ss¶cy¶zh¶z¶u¶y¶bh¶'"),
  (0x1C90, "A¶B¶G¶D¶E¶V¶Z¶T`¶I¶K¶L¶M¶N¶O¶P¶Zh¶R¶S¶T¶U¶P`¶K`¶G'¶Q¶Sh¶Ch`¶C`¶Z'¶C¶Ch'¶X¶J¶H¶E¶Y¶W¶Xh¶Oe"),
  (0x1D00, "A¶AE¶ae¶B¶C¶D¶D¶E¶e¶i¶J¶K¶L¶M¶N¶O¶O¶o¶o¶o¶oe¶ou¶o¶o¶P¶R¶R¶T¶U¶u¶u¶m¶V¶W¶Z¶ZH¶¶¶G¶L¶P¶R¶PS¶L¶A¶AE¶B¶¶D¶E¶3¶G¶H¶I" ++
      "¶J¶K¶L¶M¶N¶¶O¶OU¶P¶R¶T¶U¶W¶a¶a¶a¶ae¶b¶d¶e¶@¶e¶e¶g¶¶k¶m¶ng¶o¶o¶o¶o¶p¶t¶u¶u¶W¶v¶¶b¶g¶d¶ph¶kh¶i¶r¶u¶v¶b¶g¶r¶ph¶kh" ++
      "¶ue¶b¶d¶f¶m¶n¶p¶r¶r¶s¶t¶z¶g¶n¶g¶th¶i¶i¶p¶u¶u¶b¶d¶f¶g¶k¶l¶m¶n¶p¶r¶s¶sh¶v¶x¶z¶a¶a¶d¶e¶e¶e¶e¶i¶o¶sh¶u¶zh¶a¶c¶c¶d¶e" ++
      "¶f¶j¶g¶Y¶i¶i¶I¶i¶j¶l¶l¶L¶m¶W¶n¶n¶n¶o¶F¶s¶S¶t¶U¶U¶U¶v¶^¶z¶z¶z¶Z¶th¶¶¶¶¶¶¶¶¶¶¶¶¶¶¶¶¶¶¶¶¶¶¶¶¶¶¶¶¶¶¶¶¶¶¶¶¶¶¶¶¶¶¶¶¶¶" ++
      "¶¶¶¶¶¶¶¶¶¶¶¶¶¶¶¶¶¶¶A¶a¶B¶b¶B¶b¶B¶b¶C¶c¶D¶d¶D¶d¶D¶d¶D¶d¶D¶d¶E¶e¶E¶e¶E¶e¶E¶e¶E¶e¶F¶f¶G¶g¶H¶h¶H¶h¶H¶h¶H¶h¶H¶h¶I¶i" ++
      "¶I¶i¶K¶k¶K¶k¶K¶k¶L¶l¶L¶l¶L¶l¶L¶l¶M¶m¶M¶m¶M¶m¶N¶n¶N¶n¶N¶n¶N¶n¶O¶o¶O¶o¶O¶o¶O¶o¶P¶p¶P¶p¶R¶r¶R¶r¶R¶r¶R¶r¶S¶s¶S¶s¶S" ++
      "¶s¶S¶s¶S¶s¶T¶t¶T¶t¶T¶t¶T¶t¶U¶u¶U¶u¶U¶u¶U¶u¶U¶u¶V¶v¶V¶v¶W¶w¶W¶w¶W¶w¶W¶w¶W¶w¶X¶x¶X¶x¶Y¶y¶Z¶z¶Z¶z¶Z¶z¶h¶t¶w¶y¶a¶S" ++
      "¶s¶s¶SS¶d¶A¶a¶A¶a¶A¶a¶A¶a¶A¶a¶A¶a¶A¶a¶A¶a¶A¶a¶A¶a¶A¶a¶A¶a¶E¶e¶E¶e¶E¶e¶E¶e¶E¶e¶E¶e¶E¶e¶E¶e¶I¶i¶I¶i¶O¶o¶O¶o¶O¶o¶O" ++
      "¶o¶O¶o¶O¶o¶O¶o¶O¶o¶O¶o¶O¶o¶O¶o¶O¶o¶U¶u¶U¶u¶U¶u¶U¶u¶U¶u¶U¶u¶U¶u¶Y¶y¶Y¶y¶Y¶y¶Y¶y¶LL¶ll¶V¶v¶Y¶y¶a¶a¶a¶a¶a¶a¶a¶a¶A" ++
      "¶A¶A¶A¶A¶A¶A¶A¶e¶e¶e¶e¶e¶e¶¶¶E¶E¶E¶E¶E¶E¶¶¶e¶e¶e¶e¶e¶e¶e¶e¶E¶E¶E¶E¶E¶E¶E¶E¶i¶i¶i¶i¶i¶i¶i¶i¶I¶I¶I¶I¶I¶I¶I¶I¶o¶o" ++
      "¶o¶o¶o¶o¶¶¶O¶O¶O¶O¶O¶O¶¶¶u¶u¶u¶u¶u¶u¶u¶u¶¶U¶¶U¶¶U¶¶U¶o¶o¶o¶o¶o¶o¶o¶o¶O¶O¶O¶O¶O¶O¶O¶O¶a¶a¶e¶e¶e¶e¶i¶i¶o¶o¶u¶u¶o" ++
      "¶o¶¶¶a¶a¶a¶a¶a¶a¶a¶a¶A¶A¶A¶A¶A¶A¶A¶A¶e¶e¶e¶e¶e¶e¶e¶e¶E¶E¶E¶E¶E¶E¶E¶E¶o¶o¶o¶o¶o¶o¶o¶o¶O¶O¶O¶O¶O¶O¶O¶O¶a¶a¶a¶a¶a¶" ++
      "¶a¶a¶A¶A¶A¶A¶A¶ ¶i¶ ¶ ¶ ¶e¶e¶e¶¶e¶e¶E¶E¶E¶E¶E¶ ¶ ¶ ¶i¶i¶i¶i¶¶¶i¶i¶I¶I¶I¶I¶¶ ¶ ¶ ¶u¶u¶u¶u¶r¶r¶u¶u¶U¶U¶U¶U¶R¶ ¶ " ++
      "¶`¶¶¶o¶o¶o¶¶o¶o¶O¶O¶O¶O¶O¶ ¶ ¶¶ ¶ ¶ ¶ ¶ ¶ ¶ ¶ ¶ ¶ ¶ ¶ ¶¶¶¶¶-¶-¶-¶-¶--¶--¶||¶¶'¶'¶,¶'¶\"¶\"¶,,¶\"¶|¶||¶*¶*>¶.¶.." ++
      "¶...¶.¶\n¶\n\n¶¶¶¶¶¶ ¶%0¶%00¶'¶''¶'''¶`¶``¶```¶^¶<¶>¶*¶!!¶!?¶-¶¶-¶^¶***¶--¶/¶-[¶]-¶??¶?!¶!?¶7¶PP¶(]¶[)¶*¶¶;¶%" ++
      "¶***¶¶¶¶¶''''"),
  (0x205F, " ¶"),
  (0x2070, "0¶i¶¶¶4¶5¶6¶7¶8¶9¶+¶-¶=¶(¶)¶n¶0¶1¶2¶3¶4¶5¶6¶7¶8¶9¶+¶-¶=¶(¶)¶¶a¶e¶o¶x¶e¶h¶k¶l¶m¶n¶p¶s¶t¶¶¶¶ECU¶CL¶Cr¶FF¶L¶mil¶N" ++
      "¶Pts¶Rs¶W¶NS¶D¶EUR¶K¶T¶Dr¶Pf¶P¶G¶A¶hrn¶C¶lt¶Sm¶T¶Rs¶TL¶M¶m¶rub¶L¶BTC"),
  (0x20D0, "¶¶¶¶¶¶¶¶¶¶¶¶¶¶¶¶¶¶¶¶¶¶¶¶¶¶¶¶¶¶¶¶"),
  (0x2100, "a/c¶a/s¶C¶C¶CL¶c/o¶c/u¶E¶¶F¶g¶H¶H¶H¶h¶h¶I¶I¶L¶l¶lb¶N¶No¶(p)¶P¶P¶Q¶R¶R¶R¶Rx¶R¶(sm)¶TEL¶(tm)¶V¶Z¶oz¶O¶¶Z¶¶K¶A¶B¶C" ++
      "¶e¶e¶E¶F¶F¶M¶o¶¶¶¶¶i¶Q¶FAX¶p¶g¶G¶P¶¶G¶L¶L¶Y¶D¶d¶e¶i¶j¶¶&¶¶A/S¶f¶¶1/7¶1/9¶1/10¶ 1/3 ¶ 2/3 ¶ 1/5 ¶ 2/5 ¶ 3/5 " ++
      "¶ 4/5 ¶ 1/6 ¶ 5/6 ¶ 1/8 ¶ 3/8 ¶ 5/8 ¶ 7/8 ¶ 1/¶I¶II¶III¶IV¶V¶VI¶VII¶VIII¶IX¶X¶XI¶XII¶L¶C¶D¶M¶i¶ii¶iii¶iv¶v¶vi" ++
      "¶vii¶viii¶ix¶x¶xi¶xii¶l¶c¶d¶m¶(D¶D)¶((|))¶)¶c¶6¶50¶50000¶100000¶0/3"),
  (0x2190, "-¶|¶-¶|¶-¶|¶\\¶/¶\\¶/¶-¶-¶~¶~¶-¶|¶-¶|¶-¶-¶-¶|¶-¶|¶|¶-¶-¶-¶-¶-¶-¶|"),
  (0x2200, "V¶C¶d¶E¶E¶0¶D¶V¶E¶E¶E¶E¶E¶E¶¶P¶U¶S¶-¶¶¶/¶\\¶*¶*¶*¶v¶3¶4¶oc¶oo¶L¶¶¶¶|¶|¶||¶||¶^¶v¶n¶U¶S¶SS¶SSS¶S¶SS¶SSS"),
  (0x2236, ":"),
  (0x223C, "~¶¶¶¶¶~"),
  (0x2260, "!=¶==¶==¶¶<=¶>=¶<=¶>=¶¶¶<<¶>>¶¶¶<¶>¶<=¶>="),
  (0x2282, "C¶¶C"),
  (0x22A4, "T"),
  (0x22C1, "V¶n¶U¶¶*"),
  (0x2329, "<¶> "),
  (0x2400, "NUL¶SOH¶STX¶ETX¶EOT¶ENQ¶ACK¶BEL¶BS¶HT¶LF¶VT¶FF¶CR¶SO¶SI¶DLE¶DC1¶DC2¶DC3¶DC4¶NAK¶SYN¶ETB¶CAN¶EM¶SUB¶ESC¶FS¶GS¶RS" ++
      "¶US¶SP¶DEL"),
  (0x2460, "1¶2¶3¶4¶5¶6¶7¶8¶9¶10¶11¶12¶13¶14¶15¶16¶17¶18¶19¶20¶(1)¶(2)¶(3)¶(4)¶(5)¶(6)¶(7)¶(8)¶(9)¶(10)¶(11)¶(12)¶(13)¶(14)" ++
      "¶(15)¶(16)¶(17)¶(18)¶(19)¶(20)¶1.¶2.¶3.¶4.¶5.¶6.¶7.¶8.¶9.¶10.¶11.¶12.¶13.¶14.¶15.¶16.¶17.¶18.¶19.¶20.¶(a)¶(b)" ++
      "¶(c)¶(d)¶(e)¶(f)¶(g)¶(h)¶(i)¶(j)¶(k)¶(l)¶(m)¶(n)¶(o)¶(p)¶(q)¶(r)¶(s)¶(t)¶(u)¶(v)¶(w)¶(x)¶(y)¶(z)¶A¶B¶C¶D¶E¶F¶G" ++
      "¶H¶I¶J¶K¶L¶M¶N¶O¶P¶Q¶R¶S¶T¶U¶V¶W¶X¶Y¶Z¶a¶b¶c¶d¶e¶f¶g¶h¶i¶j¶k¶l¶m¶n¶o¶p¶q¶r¶s¶t¶u¶v¶w¶x¶y¶z¶0¶11¶12¶13¶14¶15¶16" ++
      "¶17¶18¶19¶20¶1¶2¶3¶4¶5¶6¶7¶8¶9¶10¶0¶-¶-¶|¶|¶-¶-¶|¶|¶-¶-¶|¶|¶+¶+¶+¶+¶+¶+¶+¶+¶+¶+¶+¶+¶+¶+¶+¶+¶+¶+¶+¶+¶+¶+¶+¶+¶+¶+" ++
      "¶+¶+¶+¶+¶+¶+¶+¶+¶+¶+¶+¶+¶+¶+¶+¶+¶+¶+¶+¶+¶+¶+¶+¶+¶+¶+¶+¶+¶+¶+¶+¶+¶+¶+¶+¶+¶+¶+¶-¶-¶|¶|¶=¶|¶+¶+¶+¶+¶+¶+¶+¶+¶+¶+¶+" ++
      "¶+¶+¶+¶+¶+¶+¶+¶+¶+¶+¶+¶+¶+¶+¶+¶+¶+¶+¶+¶+¶/¶\\¶X¶-¶|¶-¶|¶-¶|¶-¶|¶-¶|¶-¶|¶#¶#¶#¶#¶#¶#¶#¶#¶#¶#¶#¶#¶#¶#¶#¶#¶#¶#¶#¶#" ++
      "¶#¶#¶#¶#¶#¶#¶#¶#¶#¶#¶#¶#¶#¶#¶#¶#¶#¶#¶#¶#¶#¶#¶#¶#¶#¶#¶#¶#¶#¶#¶^¶^¶^¶^¶>¶>¶>¶>¶>¶>¶V¶V¶V¶V¶<¶<¶<¶<¶<¶<¶*¶*¶*¶<>¶*" ++
      "¶*¶*¶*¶*¶*¶*¶*¶*¶*¶*¶*¶*¶*¶*¶*¶*¶*¶*¶*¶*¶*¶*¶*¶*¶*¶*¶*¶*¶*¶*¶*¶*¶*¶*¶*¶*¶*¶*¶*¶*¶*¶*¶*¶*¶*¶*¶*¶*¶*¶*¶*¶*¶*"),
  (0x2776, "1¶2¶3¶4¶5¶6¶7¶8¶9¶10¶1¶2¶3¶4¶5¶6¶7¶8¶9¶10¶1¶2¶3¶4¶5¶6¶7¶8¶9¶10"),
  (0x27A1, ">"),
  (0x2800, " ¶a¶1¶b¶'¶k¶2¶l¶@¶c¶i¶f¶/¶m¶s¶p¶\"¶e¶3¶h¶9¶o¶6¶r¶^¶d¶j¶g¶>¶n¶t¶q¶,¶*¶5¶<¶-¶u¶8¶v¶.¶%¶[¶$¶+¶x¶!¶&¶;¶:¶4¶\\¶0¶z¶7" ++
      "¶(¶_¶?¶w¶]¶#¶y¶)¶=¶[d7]¶[d17]¶[d27]¶[d127]¶[d37]¶[d137]¶[d237]¶[d1237]¶[d47]¶[d147]¶[d247]¶[d1247]¶[d347]" ++
      "¶[d1347]¶[d2347]¶[d12347]¶[d57]¶[d157]¶[d257]¶[d1257]¶[d357]¶[d1357]¶[d2357]¶[d12357]¶[d457]¶[d1457]¶[d2457]" ++
      "¶[d12457]¶[d3457]¶[d13457]¶[d23457]¶[d123457]¶[d67]¶[d167]¶[d267]¶[d1267]¶[d367]¶[d1367]¶[d2367]¶[d12367]" ++
      "¶[d467]¶[d1467]¶[d2467]¶[d12467]¶[d3467]¶[d13467]¶[d23467]¶[d123467]¶[d567]¶[d1567]¶[d2567]¶[d12567]¶[d3567]" ++
      "¶[d13567]¶[d23567]¶[d123567]¶[d4567]¶[d14567]¶[d24567]¶[d124567]¶[d34567]¶[d134567]¶[d234567]¶[d1234567]¶[d8]" ++
      "¶[d18]¶[d28]¶[d128]¶[d38]¶[d138]¶[d238]¶[d1238]¶[d48]¶[d148]¶[d248]¶[d1248]¶[d348]¶[d1348]¶[d2348]¶[d12348]" ++
      "¶[d58]¶[d158]¶[d258]¶[d1258]¶[d358]¶[d1358]¶[d2358]¶[d12358]¶[d458]¶[d1458]¶[d2458]¶[d12458]¶[d3458]¶[d13458]" ++
      "¶[d23458]¶[d123458]¶[d68]¶[d168]¶[d268]¶[d1268]¶[d368]¶[d1368]¶[d2368]¶[d12368]¶[d468]¶[d1468]¶[d2468]¶[d12468]" ++
      "¶[d3468]¶[d13468]¶[d23468]¶[d123468]¶[d568]¶[d1568]¶[d2568]¶[d12568]¶[d3568]¶[d13568]¶[d23568]¶[d123568]" ++
      "¶[d4568]¶[d14568]¶[d24568]¶[d124568]¶[d34568]¶[d134568]¶[d234568]¶[d1234568]¶[d78]¶[d178]¶[d278]¶[d1278]¶[d378]" ++
      "¶[d1378]¶[d2378]¶[d12378]¶[d478]¶[d1478]¶[d2478]¶[d12478]¶[d3478]¶[d13478]¶[d23478]¶[d123478]¶[d578]¶[d1578]" ++
      "¶[d2578]¶[d12578]¶[d3578]¶[d13578]¶[d23578]¶[d123578]¶[d4578]¶[d14578]¶[d24578]¶[d124578]¶[d34578]¶[d134578]" ++
      "¶[d234578]¶[d1234578]¶[d678]¶[d1678]¶[d2678]¶[d12678]¶[d3678]¶[d13678]¶[d23678]¶[d123678]¶[d4678]¶[d14678]" ++
      "¶[d24678]¶[d124678]¶[d34678]¶[d134678]¶[d234678]¶[d1234678]¶[d5678]¶[d15678]¶[d25678]¶[d125678]¶[d35678]" ++
      "¶[d135678]¶[d235678]¶[d1235678]¶[d45678]¶[d145678]¶[d245678]¶[d1245678]¶[d345678]¶[d1345678]¶[d2345678]" ++
      "¶[d12345678]"),
  (0x2B05, "<¶^¶v"),
  (0x2C00, "A¶B¶V¶G¶D¶E¶Zh¶Dz¶Z¶I¶I¶I¶Dj¶K¶L¶M¶N¶O¶P¶R¶S¶T¶U¶F¶Kh¶O¶Sht¶Ts¶Ch¶Sh¶'¶Y¶'¶Ia¶Io¶Iu¶E¶E¶Io¶O¶E¶Io¶F¶Y¶¶¶¶¶a¶b¶v" ++
      "¶g¶d¶e¶zh¶dz¶z¶i¶i¶i¶dj¶k¶l¶m¶n¶o¶p¶r¶s¶t¶u¶f¶kh¶o¶sht¶ts¶ch¶sh¶'¶y¶'¶ia¶io¶iu¶e¶e¶io¶o¶e¶io¶f¶y¶¶¶¶¶L¶l¶L¶P¶R" ++
      "¶a¶t¶H¶h¶K¶k¶Z¶z¶A¶M¶A¶A¶v¶W¶w¶v¶H¶h¶ph¶e¶r¶o¶E¶j¶V¶S¶Z¶A¶a¶B¶b¶G¶g¶D¶d¶E¶e¶6¶6¶Z¶z¶E¶e¶Th¶th¶I¶i¶K¶k¶L¶l¶M¶m¶N" ++
      "¶n¶X¶x¶O¶o¶P¶p¶R¶r¶S¶s¶T¶t¶U¶u¶Ph¶ph¶Kh¶kh¶Ps¶ps¶O¶o"),
  (0x2D00, "a¶b¶g¶d¶e¶v¶z¶t`¶i¶k¶l¶m¶n¶o¶p¶zh¶r¶s¶t¶u¶p`¶k`¶g'¶q¶sh¶ch`¶c`¶z'¶c¶ch'¶x¶j¶h¶e¶y¶w¶xh¶oe"),
  (0x2D30, "a¶b¶bh¶g¶ghh¶j¶j¶d¶dh¶dd¶ddh¶e¶f¶k¶k¶kh¶h¶hh¶h¶_¶kh¶q¶i¶zh¶zh¶zh¶l¶m¶n¶ny¶ng¶p¶u¶r¶rr¶gh¶gh¶s¶ss¶sh¶t¶th¶ch¶tt" ++
      "¶v¶w¶y¶z¶z¶z¶e¶z"),
  (0x3000, " ¶, ¶. ¶\"¶[JIS]¶\"¶/¶0¶<¶> ¶<<¶>> ¶[¶] ¶\x7b¶\x7d ¶[(¶)] ¶@¶X¶[¶] ¶[[¶]] ¶((¶)) ¶[[ ¶]] ¶~¶``¶''¶,,¶@¶1¶2¶3¶4" ++
      "¶5¶6¶7¶8¶9¶¶¶¶¶¶¶~¶+¶+¶+¶+¶+¶@¶ // ¶+10+¶+20+¶+30+"),
  (0x3041, "a¶a¶i¶i¶u¶u¶e¶e¶o¶o¶ka¶ga¶ki¶gi¶ku¶gu¶ke¶ge¶ko¶go¶sa¶za¶shi¶zi¶su¶zu¶se¶ze¶so¶zo¶ta¶da¶chi¶di¶tsu¶tsu¶du¶te¶de" ++
      "¶to¶do¶na¶ni¶nu¶ne¶no¶ha¶ba¶pa¶hi¶bi¶pi¶hu¶bu¶pu¶he¶be¶pe¶ho¶bo¶po¶ma¶mi¶mu¶me¶mo¶ya¶ya¶yu¶yu¶yo¶yo¶ra¶ri¶ru¶re" ++
      "¶ro¶wa¶wa¶wi¶we¶wo¶n¶vu¶ka¶ke¶¶¶¶¶¶¶\"¶\"¶yori¶=¶a¶a¶i¶i¶u¶u¶e¶e¶o¶o¶ka¶ga¶ki¶gi¶ku¶gu¶ke¶ge¶ko¶go¶sa¶za¶shi¶zi" ++
      "¶su¶zu¶se¶ze¶so¶zo¶ta¶da¶chi¶di¶tsu¶tsu¶du¶te¶de¶to¶do¶na¶ni¶nu¶ne¶no¶ha¶ba¶pa¶hi¶bi¶pi¶hu¶bu¶pu¶he¶be¶pe¶ho¶bo" ++
      "¶po¶ma¶mi¶mu¶me¶mo¶ya¶ya¶yu¶yu¶yo¶yo¶ra¶ri¶ru¶re¶ro¶wa¶wa¶wi¶we¶wo¶n¶vu¶ka¶ke¶va¶vi¶ve¶vo¶¶¶\"¶\"¶koto"),
  (0x3105, "B¶P¶M¶F¶D¶T¶N¶L¶G¶K¶H¶J¶Q¶X¶ZH¶CH¶SH¶R¶Z¶C¶S¶A¶O¶E¶EH¶AI¶EI¶AU¶OU¶AN¶EN¶ANG¶ENG¶ER¶I¶U¶IU¶V¶NG¶GN¶¶¶¶¶g¶gg¶gs¶n" ++
      "¶nj¶nh¶d¶dd¶r¶lg¶lm¶lb¶ls¶lt¶lp¶rh¶m¶b¶bb¶bs¶s¶ss¶¶j¶jj¶c¶k¶t¶p¶h¶a¶ae¶ya¶yae¶eo¶e¶yeo¶ye¶o¶wa¶wae¶oe¶yo¶u¶weo" ++
      "¶we¶wi¶yu¶eu¶yi¶i¶¶nn¶nd¶ns¶nZ¶lgs¶ld¶lbs¶lZ¶lQ¶mb¶ms¶mZ¶mN¶bg¶¶bsg¶bst¶bj¶bt¶bN¶bbN¶sg¶sn¶sd¶sb¶sj¶Z¶¶N¶Ns¶NZ" ++
      "¶pN¶hh¶Q¶yo-ya¶yo-yae¶yo-i¶yu-yeo¶yu-ye¶yu-i¶U¶U-i"),
  (0x31A0, "BU¶ZI¶JI¶GU¶EE¶ENN¶OO¶ONN¶IR¶ANN¶INN¶UNN¶IM¶NGG¶AINN¶AUNN¶AM¶OM¶ONG¶INNN¶P¶T¶K¶H"),
  (0x31F0, "ku¶si¶su¶to¶nu¶ha¶hi¶hu¶he¶ho¶mu¶ra¶ri¶ru¶re¶ro¶(g)¶(n)¶(d)¶(r)¶(m)¶(b)¶(s)¶()¶(j)¶(c)¶(k)¶(t)¶(p)¶(h)¶(ga)" ++
      "¶(na)¶(da)¶(ra)¶(ma)¶(ba)¶(sa)¶(a)¶(ja)¶(ca)¶(ka)¶(ta)¶(pa)¶(ha)¶(ju)¶(ojeon)¶(ohu)¶¶(1) ¶(2) ¶(3) ¶(4) ¶(5) " ++
      "¶(6) ¶(7) ¶(8) ¶(9) ¶(10) ¶(Yue) ¶(Huo) ¶(Shui) ¶(Mu) ¶(Jin) ¶(Tu) ¶(Ri) ¶(Zhu) ¶(You) ¶(She) ¶(Ming) ¶(Te) " ++
      "¶(Cai) ¶(Zhu) ¶(Lao) ¶(Dai) ¶(Hu) ¶(Xue) ¶(Jian) ¶(Qi) ¶(Zi) ¶(Xie) ¶(Ji) ¶(Xiu) ¶<<¶>>¶(Wen)¶(You)¶(Wen)" ++
      "¶(Zheng)¶10¶20¶30¶40¶50¶60¶70¶80¶PTE¶21¶22¶23¶24¶25¶26¶27¶28¶29¶30¶31¶32¶33¶34¶35¶(g)¶(n)¶(d)¶(r)¶(m)¶(b)¶(s)" ++
      "¶()¶(j)¶(c)¶(k)¶(t)¶(p)¶(h)¶(ga)¶(na)¶(da)¶(ra)¶(ma)¶(ba)¶(sa)¶(a)¶(ja)¶(ca)¶(ka)¶(ta)¶(pa)¶(ha)¶(chamgo)" ++
      "¶(jueui)¶(u)¶KIS ¶(1) ¶(2) ¶(3) ¶(4) ¶(5) ¶(6) ¶(7) ¶(8) ¶(9) ¶(10) ¶(Yue) ¶(Huo) ¶(Shui) ¶(Mu) ¶(Jin) ¶(Tu) " ++
      "¶(Ri) ¶(Zhu) ¶(You) ¶(She) ¶(Ming) ¶(Te) ¶(Cai) ¶(Zhu) ¶(Lao) ¶(Mi) ¶(Nan) ¶(Nu) ¶(Shi) ¶(You) ¶(Yin) ¶(Zhu) " ++
      "¶(Xiang) ¶(Xiu) ¶(Xie) ¶(Zheng) ¶(Shang) ¶(Zhong) ¶(Xia) ¶(Zuo) ¶(You) ¶(Yi) ¶(Zong) ¶(Xue) ¶(Jian) ¶(Qi) " ++
      "¶(Zi) ¶(Xie) ¶(Ye) ¶36¶37¶38¶39¶40¶41¶42¶43¶44¶45¶46¶47¶48¶49¶50¶1M¶2M¶3M¶4M¶5M¶6M¶7M¶8M¶9M¶10M¶11M¶12M¶Hg¶erg" ++
      "¶eV¶LTD¶a¶i¶u¶u¶o¶ka¶ki¶ku¶ke¶ko¶sa¶si¶su¶se¶so¶ta¶ti¶tu¶te¶to¶na¶ni¶nu¶ne¶no¶ha¶hi¶hu¶he¶ho¶ma¶mi¶mu¶me¶mo¶ya" ++
      "¶yu¶yo¶ra¶ri¶ru¶re¶ro¶wa¶wi¶we¶wo¶Reiwa¶apartment¶alpha¶ampere¶are¶inning¶inch¶won¶escudo¶acre¶ounce¶ohm¶kai-ri" ++
      "¶carat¶calorie¶gallon¶gamma¶giga¶guinea¶curie¶guilder¶kilo¶kilogram¶kilometer¶kilowatt¶gram¶gram ton¶cruzeiro" ++
      "¶krone¶case¶koruna¶co-op¶cycle¶centime¶shilling¶centi¶cent¶dozen¶desi¶dollar¶ton¶nano¶knot¶heights¶percent" ++
      "¶parts¶barrel¶piaster¶picul¶pico¶building¶farad¶feet¶bushel¶franc¶hectare¶peso¶pfennig¶hertz¶pence¶page¶beta" ++
      "¶point¶volt¶hon¶pound¶hall¶horn¶micro¶mile¶mach¶mark¶mansion¶micron¶milli¶millibar¶mega¶megaton¶meter¶yard¶yard" ++
      "¶yuan¶liter¶lira¶rupee¶ruble¶rem¶roentgen¶watt¶0h¶1h¶2h¶3h¶4h¶5h¶6h¶7h¶8h¶9h¶10h¶11h¶12h¶13h¶14h¶15h¶16h¶17h" ++
      "¶18h¶19h¶20h¶21h¶22h¶23h¶24h¶HPA¶da¶AU¶bar¶oV¶pc¶dm¶dm^2¶dm^3¶IU¶Heisei¶Syouwa¶Taisyou¶Meiji¶Inc.¶pA¶nA¶uA¶mA" ++
      "¶kA¶kB¶MB¶GB¶cal¶kcal¶pF¶nF¶uF¶ug¶mg¶kg¶Hz¶kHz¶MHz¶GHz¶THz¶ul¶ml¶dl¶kl¶fm¶nm¶um¶mm¶cm¶km¶mm^2¶cm^2¶m^2¶km^2" ++
      "¶mm^4¶cm^3¶m^3¶km^3¶m/s¶m/s^2¶Pa¶kPa¶MPa¶GPa¶rad¶rad/s¶rad/s^2¶ps¶ns¶us¶ms¶pV¶nV¶uV¶mV¶kV¶MV¶pW¶nW¶uW¶mW¶kW¶MW" ++
      "¶kOhm¶MOhm¶a.m.¶Bq¶cc¶cd¶C/kg¶Co.¶dB¶Gy¶ha¶HP¶in¶K.K.¶KM¶kt¶lm¶ln¶log¶lx¶mb¶mil¶mol¶pH¶p.m.¶PPM¶PR¶sr¶Sv¶Wb¶V/m" ++
      "¶A/m¶1d¶2d¶3d¶4d¶5d¶6d¶7d¶8d¶9d¶10d¶11d¶12d¶13d¶14d¶15d¶16d¶17d¶18d¶19d¶20d¶21d¶22d¶23d¶24d¶25d¶26d¶27d¶28d¶29d" ++
      "¶30d¶31d¶gal"),
  (0xA000, "it¶ix¶i¶ip¶iet¶iex¶ie¶iep¶at¶ax¶a¶ap¶uox¶uo¶uop¶ot¶ox¶o¶op¶ex¶e¶wu¶bit¶bix¶bi¶bip¶biet¶biex¶bie¶biep¶bat¶bax¶ba" ++
      "¶bap¶buox¶buo¶buop¶bot¶box¶bo¶bop¶bex¶be¶bep¶but¶bux¶bu¶bup¶burx¶bur¶byt¶byx¶by¶byp¶byrx¶byr¶pit¶pix¶pi¶pip" ++
      "¶piex¶pie¶piep¶pat¶pax¶pa¶pap¶puox¶puo¶puop¶pot¶pox¶po¶pop¶put¶pux¶pu¶pup¶purx¶pur¶pyt¶pyx¶py¶pyp¶pyrx¶pyr¶bbit" ++
      "¶bbix¶bbi¶bbip¶bbiet¶bbiex¶bbie¶bbiep¶bbat¶bbax¶bba¶bbap¶bbuox¶bbuo¶bbuop¶bbot¶bbox¶bbo¶bbop¶bbex¶bbe¶bbep¶bbut" ++
      "¶bbux¶bbu¶bbup¶bburx¶bbur¶bbyt¶bbyx¶bby¶bbyp¶nbit¶nbix¶nbi¶nbip¶nbiex¶nbie¶nbiep¶nbat¶nbax¶nba¶nbap¶nbot¶nbox" ++
      "¶nbo¶nbop¶nbut¶nbux¶nbu¶nbup¶nburx¶nbur¶nbyt¶nbyx¶nby¶nbyp¶nbyrx¶nbyr¶hmit¶hmix¶hmi¶hmip¶hmiex¶hmie¶hmiep¶hmat" ++
      "¶hmax¶hma¶hmap¶hmuox¶hmuo¶hmuop¶hmot¶hmox¶hmo¶hmop¶hmut¶hmux¶hmu¶hmup¶hmurx¶hmur¶hmyx¶hmy¶hmyp¶hmyrx¶hmyr¶mit" ++
      "¶mix¶mi¶mip¶miex¶mie¶miep¶mat¶max¶ma¶map¶muot¶muox¶muo¶muop¶mot¶mox¶mo¶mop¶mex¶me¶mut¶mux¶mu¶mup¶murx¶mur¶myt" ++
      "¶myx¶my¶myp¶fit¶fix¶fi¶fip¶fat¶fax¶fa¶fap¶fox¶fo¶fop¶fut¶fux¶fu¶fup¶furx¶fur¶fyt¶fyx¶fy¶fyp¶vit¶vix¶vi¶vip¶viet" ++
      "¶viex¶vie¶viep¶vat¶vax¶va¶vap¶vot¶vox¶vo¶vop¶vex¶vep¶vut¶vux¶vu¶vup¶vurx¶vur¶vyt¶vyx¶vy¶vyp¶vyrx¶vyr¶dit¶dix¶di" ++
      "¶dip¶diex¶die¶diep¶dat¶dax¶da¶dap¶duox¶duo¶dot¶dox¶do¶dop¶dex¶de¶dep¶dut¶dux¶du¶dup¶durx¶dur¶tit¶tix¶ti¶tip" ++
      "¶tiex¶tie¶tiep¶tat¶tax¶ta¶tap¶tuot¶tuox¶tuo¶tuop¶tot¶tox¶to¶top¶tex¶te¶tep¶tut¶tux¶tu¶tup¶turx¶tur¶ddit¶ddix" ++
      "¶ddi¶ddip¶ddiex¶ddie¶ddiep¶ddat¶ddax¶dda¶ddap¶dduox¶dduo¶dduop¶ddot¶ddox¶ddo¶ddop¶ddex¶dde¶ddep¶ddut¶ddux¶ddu" ++
      "¶ddup¶ddurx¶ddur¶ndit¶ndix¶ndi¶ndip¶ndiex¶ndie¶ndat¶ndax¶nda¶ndap¶ndot¶ndox¶ndo¶ndop¶ndex¶nde¶ndep¶ndut¶ndux" ++
      "¶ndu¶ndup¶ndurx¶ndur¶hnit¶hnix¶hni¶hnip¶hniet¶hniex¶hnie¶hniep¶hnat¶hnax¶hna¶hnap¶hnuox¶hnuo¶hnot¶hnox¶hnop" ++
      "¶hnex¶hne¶hnep¶hnut¶nit¶nix¶ni¶nip¶niex¶nie¶niep¶nax¶na¶nap¶nuox¶nuo¶nuop¶not¶nox¶no¶nop¶nex¶ne¶nep¶nut¶nux¶nu" ++
      "¶nup¶nurx¶nur¶hlit¶hlix¶hli¶hlip¶hliex¶hlie¶hliep¶hlat¶hlax¶hla¶hlap¶hluox¶hluo¶hluop¶hlox¶hlo¶hlop¶hlex¶hle" ++
      "¶hlep¶hlut¶hlux¶hlu¶hlup¶hlurx¶hlur¶hlyt¶hlyx¶hly¶hlyp¶hlyrx¶hlyr¶lit¶lix¶li¶lip¶liet¶liex¶lie¶liep¶lat¶lax¶la" ++
      "¶lap¶luot¶luox¶luo¶luop¶lot¶lox¶lo¶lop¶lex¶le¶lep¶lut¶lux¶lu¶lup¶lurx¶lur¶lyt¶lyx¶ly¶lyp¶lyrx¶lyr¶git¶gix¶gi" ++
      "¶gip¶giet¶giex¶gie¶giep¶gat¶gax¶ga¶gap¶guot¶guox¶guo¶guop¶got¶gox¶go¶gop¶get¶gex¶ge¶gep¶gut¶gux¶gu¶gup¶gurx¶gur" ++
      "¶kit¶kix¶ki¶kip¶kiex¶kie¶kiep¶kat¶kax¶ka¶kap¶kuox¶kuo¶kuop¶kot¶kox¶ko¶kop¶ket¶kex¶ke¶kep¶kut¶kux¶ku¶kup¶kurx" ++
      "¶kur¶ggit¶ggix¶ggi¶ggiex¶ggie¶ggiep¶ggat¶ggax¶gga¶ggap¶gguot¶gguox¶gguo¶gguop¶ggot¶ggox¶ggo¶ggop¶gget¶ggex¶gge" ++
      "¶ggep¶ggut¶ggux¶ggu¶ggup¶ggurx¶ggur¶mgiex¶mgie¶mgat¶mgax¶mga¶mgap¶mguox¶mguo¶mguop¶mgot¶mgox¶mgo¶mgop¶mgex¶mge" ++
      "¶mgep¶mgut¶mgux¶mgu¶mgup¶mgurx¶mgur¶hxit¶hxix¶hxi¶hxip¶hxiet¶hxiex¶hxie¶hxiep¶hxat¶hxax¶hxa¶hxap¶hxuot¶hxuox" ++
      "¶hxuo¶hxuop¶hxot¶hxox¶hxo¶hxop¶hxex¶hxe¶hxep¶ngiex¶ngie¶ngiep¶ngat¶ngax¶nga¶ngap¶nguot¶nguox¶nguo¶ngot¶ngox¶ngo" ++
      "¶ngop¶ngex¶nge¶ngep¶hit¶hiex¶hie¶hat¶hax¶ha¶hap¶huot¶huox¶huo¶huop¶hot¶hox¶ho¶hop¶hex¶he¶hep¶wat¶wax¶wa¶wap" ++
      "¶wuox¶wuo¶wuop¶wox¶wo¶wop¶wex¶we¶wep¶zit¶zix¶zi¶zip¶ziex¶zie¶ziep¶zat¶zax¶za¶zap¶zuox¶zuo¶zuop¶zot¶zox¶zo¶zop" ++
      "¶zex¶ze¶zep¶zut¶zux¶zu¶zup¶zurx¶zur¶zyt¶zyx¶zy¶zyp¶zyrx¶zyr¶cit¶cix¶ci¶cip¶ciet¶ciex¶cie¶ciep¶cat¶cax¶ca¶cap" ++
      "¶cuox¶cuo¶cuop¶cot¶cox¶co¶cop¶cex¶ce¶cep¶cut¶cux¶cu¶cup¶curx¶cur¶cyt¶cyx¶cy¶cyp¶cyrx¶cyr¶zzit¶zzix¶zzi¶zzip" ++
      "¶zziet¶zziex¶zzie¶zziep¶zzat¶zzax¶zza¶zzap¶zzox¶zzo¶zzop¶zzex¶zze¶zzep¶zzux¶zzu¶zzup¶zzurx¶zzur¶zzyt¶zzyx¶zzy" ++
      "¶zzyp¶zzyrx¶zzyr¶nzit¶nzix¶nzi¶nzip¶nziex¶nzie¶nziep¶nzat¶nzax¶nza¶nzap¶nzuox¶nzuo¶nzox¶nzop¶nzex¶nze¶nzux¶nzu" ++
      "¶nzup¶nzurx¶nzur¶nzyt¶nzyx¶nzy¶nzyp¶nzyrx¶nzyr¶sit¶six¶si¶sip¶siex¶sie¶siep¶sat¶sax¶sa¶sap¶suox¶suo¶suop¶sot" ++
      "¶sox¶so¶sop¶sex¶se¶sep¶sut¶sux¶su¶sup¶surx¶sur¶syt¶syx¶sy¶syp¶syrx¶syr¶ssit¶ssix¶ssi¶ssip¶ssiex¶ssie¶ssiep¶ssat" ++
      "¶ssax¶ssa¶ssap¶ssot¶ssox¶sso¶ssop¶ssex¶sse¶ssep¶ssut¶ssux¶ssu¶ssup¶ssyt¶ssyx¶ssy¶ssyp¶ssyrx¶ssyr¶zhat¶zhax¶zha" ++
      "¶zhap¶zhuox¶zhuo¶zhuop¶zhot¶zhox¶zho¶zhop¶zhet¶zhex¶zhe¶zhep¶zhut¶zhux¶zhu¶zhup¶zhurx¶zhur¶zhyt¶zhyx¶zhy¶zhyp" ++
      "¶zhyrx¶zhyr¶chat¶chax¶cha¶chap¶chuot¶chuox¶chuo¶chuop¶chot¶chox¶cho¶chop¶chet¶chex¶che¶chep¶chux¶chu¶chup¶churx" ++
      "¶chur¶chyt¶chyx¶chy¶chyp¶chyrx¶chyr¶rrax¶rra¶rruox¶rruo¶rrot¶rrox¶rro¶rrop¶rret¶rrex¶rre¶rrep¶rrut¶rrux¶rru" ++
      "¶rrup¶rrurx¶rrur¶rryt¶rryx¶rry¶rryp¶rryrx¶rryr¶nrat¶nrax¶nra¶nrap¶nrox¶nro¶nrop¶nret¶nrex¶nre¶nrep¶nrut¶nrux" ++
      "¶nru¶nrup¶nrurx¶nrur¶nryt¶nryx¶nry¶nryp¶nryrx¶nryr¶shat¶shax¶sha¶shap¶shuox¶shuo¶shuop¶shot¶shox¶sho¶shop¶shet" ++
      "¶shex¶she¶shep¶shut¶shux¶shu¶shup¶shurx¶shur¶shyt¶shyx¶shy¶shyp¶shyrx¶shyr¶rat¶rax¶ra¶rap¶ruox¶ruo¶ruop¶rot¶rox" ++
      "¶ro¶rop¶rex¶re¶rep¶rut¶rux¶ru¶rup¶rurx¶rur¶ryt¶ryx¶ry¶ryp¶ryrx¶ryr¶jit¶jix¶ji¶jip¶jiet¶jiex¶jie¶jiep¶juot¶juox" ++
      "¶juo¶juop¶jot¶jox¶jo¶jop¶jut¶jux¶ju¶jup¶jurx¶jur¶jyt¶jyx¶jy¶jyp¶jyrx¶jyr¶qit¶qix¶qi¶qip¶qiet¶qiex¶qie¶qiep¶quot" ++
      "¶quox¶quo¶quop¶qot¶qox¶qo¶qop¶qut¶qux¶qu¶qup¶qurx¶qur¶qyt¶qyx¶qy¶qyp¶qyrx¶qyr¶jjit¶jjix¶jji¶jjip¶jjiet¶jjiex" ++
      "¶jjie¶jjiep¶jjuox¶jjuo¶jjuop¶jjot¶jjox¶jjo¶jjop¶jjut¶jjux¶jju¶jjup¶jjurx¶jjur¶jjyt¶jjyx¶jjy¶jjyp¶njit¶njix¶nji" ++
      "¶njip¶njiet¶njiex¶njie¶njiep¶njuox¶njuo¶njot¶njox¶njo¶njop¶njux¶nju¶njup¶njurx¶njur¶njyt¶njyx¶njy¶njyp¶njyrx" ++
      "¶njyr¶nyit¶nyix¶nyi¶nyip¶nyiet¶nyiex¶nyie¶nyiep¶nyuox¶nyuo¶nyuop¶nyot¶nyox¶nyo¶nyop¶nyut¶nyux¶nyu¶nyup¶xit¶xix" ++
      "¶xi¶xip¶xiet¶xiex¶xie¶xiep¶xuox¶xuo¶xot¶xox¶xo¶xop¶xyt¶xyx¶xy¶xyp¶xyrx¶xyr¶yit¶yix¶yi¶yip¶yiet¶yiex¶yie¶yiep" ++
      "¶yuot¶yuox¶yuo¶yuop¶yot¶yox¶yo¶yop¶yut¶yux¶yu¶yup¶yurx¶yur¶yyt¶yyx¶yy¶yyp¶yyrx¶yyr¶¶¶¶Qot¶Li¶Kit¶Nyip¶Cyp¶Ssi" ++
      "¶Ggop¶Gep¶Mi¶Hxit¶Lyr¶Bbut¶Mop¶Yo¶Put¶Hxuo¶Tat¶Ga¶Zup¶Cyt¶Ddur¶Bur¶Gguo¶Nyop¶Tu¶Op¶Jjut¶Zot¶Pyt¶Hmo¶Yit¶Vur¶Shy" ++
      "¶Vep¶Za¶Jo¶Nzup¶Jjy¶Got¶Jjie¶Wo¶Du¶Shur¶Lie¶Cy¶Cuop¶Cip¶Hxop¶Shat¶Zur¶Shop¶Che¶Zziet¶Nbie¶Ke"),
  (0xA500, "ee¶een¶hee¶wee¶ween¶pee¶bhee¶bee¶mbee¶kpee¶mgbee¶gbee¶fee¶vee¶tee¶thee¶dhee¶dhhee¶lee¶ree¶dee¶ndee¶see¶shee¶zee" ++
      "¶zhee¶cee¶jee¶njee¶yee¶kee¶nggee¶gee¶mee¶nee¶nyee¶i¶in¶hi¶hin¶wi¶win¶pi¶bhi¶bi¶mbi¶kpi¶mgbi¶gbi¶fi¶vi¶ti¶thi" ++
      "¶dhi¶dhhi¶li¶ri¶di¶ndi¶si¶shi¶zi¶zhi¶ci¶ji¶nji¶yi¶ki¶nggi¶gi¶mi¶ni¶nyi¶a¶an¶ngan¶ha¶han¶wa¶wan¶pa¶bha¶ba¶mba" ++
      "¶kpa¶kpan¶mgba¶gba¶fa¶va¶ta¶tha¶dha¶dhha¶la¶ra¶da¶nda¶sa¶sha¶za¶zha¶ca¶ja¶nja¶ya¶ka¶kan¶ngga¶ga¶ma¶na¶nya¶oo" ++
      "¶oon¶hoo¶woo¶woon¶poo¶bhoo¶boo¶mboo¶kpoo¶mgboo¶gboo¶foo¶voo¶too¶thoo¶dhoo¶dhhoo¶loo¶roo¶doo¶ndoo¶soo¶shoo¶zoo" ++
      "¶zhoo¶coo¶joo¶njoo¶yoo¶koo¶nggoo¶goo¶moo¶noo¶nyoo¶u¶un¶hu¶hun¶wu¶wun¶pu¶bhu¶bu¶mbu¶kpu¶mgbu¶gbu¶fu¶vu¶tu¶thu" ++
      "¶dhu¶dhhu¶lu¶ru¶du¶ndu¶su¶shu¶zu¶zhu¶cu¶ju¶nju¶yu¶ku¶nggu¶gu¶mu¶nu¶nyu¶o¶on¶ngon¶ho¶hon¶wo¶won¶po¶bho¶bo¶mbo" ++
      "¶kpo¶mgbo¶gbo¶gbon¶fo¶vo¶to¶tho¶dho¶dhho¶lo¶ro¶do¶ndo¶so¶sho¶zo¶zho¶co¶jo¶njo¶yo¶ko¶nggo¶go¶mo¶no¶nyo¶e¶en¶ngen" ++
      "¶he¶hen¶we¶wen¶pe¶bhe¶be¶mbe¶kpe¶kpen¶mgbe¶gbe¶gben¶fe¶ve¶te¶the¶dhe¶dhhe¶le¶re¶de¶nde¶se¶she¶ze¶zhe¶ce¶je¶nje" ++
      "¶ye¶ke¶ngge¶nggen¶ge¶gen¶me¶ne¶nye¶ng¶lengthener¶¶¶¶ndole fa¶ndole ka¶ndole soo"),
  (0xA62A, "ndole ma¶ndole do"),
  (0xA728, "TZ¶tz"),
  (0xA730, "f¶s¶AA¶aa¶AO¶ao¶AU¶au¶AV¶av¶AV¶av¶AY¶ay¶C¶c¶K¶k¶K¶k¶K¶k¶¶¶L¶l¶O¶o¶O¶o¶OO¶oo¶P¶p¶P¶p¶P¶p¶Q¶q¶Q¶q¶R¶r¶¶¶V¶v¶VY¶vy"),
  (0xA76A, "ET¶et¶IS¶is"),
  (0xA778, "um¶D¶d¶F¶f¶G¶G¶g¶L¶l¶R¶r¶S¶s¶T¶t"),
  (0xA78D, "H¶l¶¶N¶n¶C¶c¶c¶h¶B¶b¶F¶f"),
  (0xA7A0, "G¶g¶K¶k¶N¶n¶R¶r¶S¶s¶H¶E¶¶L¶¶q¶K¶T¶J"),
  (0xA7B8, "U¶u"),
  (0xA7C2, "W¶w¶C¶S¶Z¶D¶d¶S¶s"),
  (0xA7FA, "m"),
  (0xAB31, "a¶e¶¶e¶¶¶l¶l¶l¶m¶n¶¶o¶o¶o¶¶oe¶oe¶o¶o¶r¶r¶r¶¶r¶¶¶¶¶u¶u¶ui¶ui¶u¶¶¶¶x¶x¶x¶x¶y"),
  (0xAB62, "oe¶uo¶¶¶dz¶ts¶r"),
  (0xAB70, "a¶e¶i¶o¶u¶v¶ga¶ka¶ge¶gi¶go¶gu¶gv¶ha¶he¶hi¶ho¶hu¶hv¶la¶le¶li¶lo¶lu¶lv¶ma¶me¶mi¶mo¶mu¶na¶hna¶nah¶ne¶ni¶no¶nu¶nv" ++
      "¶qua¶que¶qui¶quo¶quu¶quv¶sa¶s¶se¶si¶so¶su¶sv¶da¶ta¶de¶te¶di¶ti¶do¶du¶dv¶dla¶tla¶tle¶tli¶tlo¶tlu¶tlv¶tsa¶tse¶tsi" ++
      "¶tso¶tsu¶tsv¶wa¶we¶wi¶wo¶wu¶wv¶ya"),
  (0xFB00, "ff¶fi¶fl¶ffi¶ffl¶st¶st"),
  (0xFB13, "mn¶me¶mi¶vn¶mkh"),
  (0xFB1D, "yi¶¶ia¶`¶A¶d¶h¶k¶l¶m¶r¶t¶+¶SH¶SH¶SH'¶SH'¶Aa¶Aa¶A'¶b'¶g'¶d'¶h'¶v'¶z'¶¶t'¶y'¶k'¶k'¶l'¶¶m'¶¶n'¶s'¶¶p'¶p'¶¶TS'¶q'" ++
      "¶r'¶SH'¶t'¶vo¶b-¶k-¶p-¶Al¶'¶'¶b¶b¶b¶b¶p¶p¶p¶p¶bh¶bh¶bh¶bh¶tth¶tth¶tth¶tth¶th¶th¶th¶th¶tt¶tt¶tt¶tt¶v¶v¶v¶v¶ph¶ph" ++
      "¶ph¶ph¶dyeh¶dyeh¶dyeh¶dyeh¶ny¶ny¶ny¶ny¶ch¶ch¶ch¶ch¶cch¶cch¶cch¶cch¶ddh¶ddh¶dh¶dh¶d¶d¶dd¶dd¶j¶j¶rr¶rr¶kh¶kh¶kh" ++
      "¶kh¶g¶g¶g¶g¶G¶G¶G¶G¶N¶N¶N¶N¶N¶N¶N¶N¶N¶N¶ae¶ae¶h¶h¶h¶h¶h¶h¶h¶h¶y¶y¶y¶y"),
  (0xFBD3, "ng¶ng¶ng¶ng¶u¶u¶oe¶oe¶yu¶yu¶u'¶v¶v¶oe¶oe¶yu¶yu¶¶¶¶¶~¶~¶y¶y¶yae¶yae¶yw¶yw¶yu¶yu¶yoe¶yoe¶yyu¶yyu¶y¶y¶y¶y~¶y~¶y~¶y" ++
      "¶y¶y¶y¶yj¶yH¶ym¶y~¶yy¶bj¶bH¶bkh¶bm¶b~¶by¶tj¶tH¶tkh¶tm¶t~¶ty¶thj¶thm¶th~¶thy¶jH¶jm¶Hj¶Hm¶khj¶khH¶khm¶sj¶sH¶skh" ++
      "¶sm¶SH¶Sm¶Dj¶DH¶Dkh¶Dm¶TH¶Tm¶Zm¶`j¶`m¶Gj¶Gm¶fj¶fH¶fkh¶fm¶f~¶fy¶qH¶qm¶q~¶qy¶k¶kj¶kH¶kkh¶kl¶km¶k~¶ky¶lj¶lH¶lkh¶lm" ++
      "¶l~¶ly¶mj¶mH¶mkh¶mm¶m~¶my¶nj¶nH¶nkh¶nm¶n~¶ny¶hj¶hm¶h~¶hy¶yj¶yH¶ykh¶ym¶y~¶yy¶dh¶r¶~¶ unW¶ inW¶ aW¶ uW¶ iW¶ W¶yr" ++
      "¶yz¶ym¶yn¶y~¶yy¶br¶bz¶bm¶bn¶b~¶by¶tr¶tz¶tm¶tn¶t~¶ty¶thr¶thz¶thm¶thn¶th~¶thy¶f~¶fy¶q~¶qy¶k¶kl¶km¶k~¶ky¶lm¶l~¶ly" ++
      "¶m¶mm¶nr¶nz¶nm¶nn¶n~¶ny¶~¶yr¶yz¶ym¶yn¶y~¶yy¶yj¶yH¶ykh¶ym¶yh¶bj¶bH¶bkh¶bm¶bh¶tj¶tH¶tkh¶tm¶th¶thm¶jH¶jm¶Hj¶Hm¶khj" ++
      "¶khm¶sj¶sH¶skh¶sm¶SH¶Skh¶Sm¶Dj¶DH¶Dkh¶Dm¶TH¶Zm¶`j¶`m¶Gj¶Gm¶fj¶fH¶fkh¶fm¶qH¶qm¶kj¶kH¶kkh¶kl¶km¶lj¶lH¶lkh¶lm¶lh" ++
      "¶mj¶mH¶mkh¶mm¶nj¶nH¶nkh¶nm¶nh¶hj¶hm¶h¶yj¶yH¶ykh¶ym¶yh¶ym¶yh¶bm¶bh¶tm¶th¶thm¶thh¶sm¶sh¶shm¶shh¶kl¶km¶lm¶nm¶nh¶ym" ++
      "¶yh¶aW¶uW¶iW¶T~¶Ty¶`~¶`y¶G~¶Gy¶s~¶sy¶sh~¶shy¶H~¶Hy¶j~¶jy¶kh~¶khy¶S~¶Sy¶D~¶Dy¶shj¶shH¶shkh¶shm¶shr¶sr¶Sr¶Dr¶T~" ++
      "¶Ty¶`~¶`y¶G~¶Gy¶s~¶sy¶sh~¶shy¶H~¶Hy¶j~¶jy¶kh~¶khy¶S~¶Sy¶D~¶Dy¶shj¶shH¶shkh¶shm¶shr¶sr¶Sr¶Dr¶shj¶shH¶shkh¶shm¶sh" ++
      "¶shh¶Tm¶sj¶sH¶skh¶shj¶shH¶shkh¶Tm¶Zm¶an¶an"),
  (0xFD50, "tjm¶tHj¶tHj¶tHm¶tkhm¶tmj¶tmH¶tmkh¶jmH¶jmH¶Hmy¶Hm~¶sHj¶sjH¶sj~¶smH¶smH¶smj¶smm¶smm¶SHH¶SHH¶Smm¶shHm¶shHm¶shjy" ++
      "¶shmkh¶shmkh¶shmm¶shmm¶DH~¶Dkhm¶Dkhm¶TmH¶TmH¶Tmm¶Tmy¶`jm¶`mm¶`mm¶`m~¶Gmm¶Gmy¶Gm~¶fkhm¶fkhm¶qmH¶qmm¶lHm¶lHy¶lH~" ++
      "¶ljj¶ljj¶lkhm¶lkhm¶lmH¶lmH¶mHj¶mHm¶mHy¶mjH¶mjm¶mkhj¶mkhm¶¶¶mjkh¶hmj¶hmm¶nHm¶nH~¶njm¶njm¶nj~¶nmy¶nm~¶ymm¶ymm" ++
      "¶bkhy¶tjy¶tj~¶tkhy¶tkh~¶tmy¶tm~¶jmy¶jH~¶jm~¶skh~¶SHy¶shHy¶DHy¶ljy¶lmy¶yHy¶yjy¶ymy¶mmy¶qmy¶nHy¶qmH¶lHm¶`my¶kmy" ++
      "¶njH¶mkhy¶ljm¶kmm¶ljm¶njH¶jHy¶Hjy¶mjy¶fmy¶bHy¶kmm¶`jm¶Smm¶skhy¶njy"),
  (0xFDF0, "Sly¶qly¶llh¶kbr¶mHmd¶Sl`m¶rswl¶`lyh¶wslm¶Sl~¶Sl~ llh `lyh wslm¶jl jllh¶ryl¶¶¶¶¶¶¶¶¶¶¶¶¶¶¶¶¶¶¶"),
  (0xFE20, "¶¶¶¶¶¶¶¶¶¶¶¶¶¶¶¶..¶--¶-¶¶¶(¶)¶\x7b¶\x7d¶[¶]¶[(¶)]¶<<¶>>¶<¶>¶[¶]¶\x7b¶\x7d¶¶¶[¶]¶¶¶¶¶¶¶¶,¶,¶.¶¶;¶:¶?¶!¶-¶(¶)" ++
      "¶\x7b¶\x7d¶\x7b¶\x7d¶#¶&¶*¶+¶-¶<¶>¶=¶¶\\¶$¶%¶@¶¶¶¶¶ an¶an¶ un¶¶ in¶¶ a¶a¶ u¶u¶ i¶i¶ W¶W¶ ¶¶¶¶¶¶¶w¶w¶¶¶y¶y¶y¶y¶¶" ++
      "¶b¶b¶b¶b¶@¶@¶t¶t¶t¶t¶th¶th¶th¶th¶j¶j¶j¶j¶H¶H¶H¶H¶kh¶kh¶kh¶kh¶d¶d¶dh¶dh¶r¶r¶z¶z¶s¶s¶s¶s¶sh¶sh¶sh¶sh¶S¶S¶S¶S¶D¶D" ++
      "¶D¶D¶T¶T¶T¶T¶Z¶Z¶Z¶Z¶`¶`¶`¶`¶G¶G¶G¶G¶f¶f¶f¶f¶q¶q¶q¶q¶k¶k¶k¶k¶l¶l¶l¶l¶m¶m¶m¶m¶n¶n¶n¶n¶h¶h¶h¶h¶w¶w¶~¶~¶y¶y¶y¶y¶l" ++
      "¶l¶l¶l¶l¶l¶l¶l¶¶¶¶¶!¶\"¶#¶$¶%¶&¶'¶(¶)¶*¶+¶,¶-¶.¶/¶0¶1¶2¶3¶4¶5¶6¶7¶8¶9¶:¶;¶<¶=¶>¶?¶@¶A¶B¶C¶D¶E¶F¶G¶H¶I¶J¶K¶L¶M¶N" ++
      "¶O¶P¶Q¶R¶S¶T¶U¶V¶W¶X¶Y¶Z¶[¶\\¶]¶^¶_¶`¶a¶b¶c¶d¶e¶f¶g¶h¶i¶j¶k¶l¶m¶n¶o¶p¶q¶r¶s¶t¶u¶v¶w¶x¶y¶z¶\x7b¶|¶\x7d¶~¶((¶))¶." ++
      "¶[¶]¶,¶*¶wo¶a¶i¶u¶e¶o¶ya¶yu¶yo¶tu¶+¶a¶i¶u¶e¶o¶ka¶ki¶ku¶ke¶ko¶sa¶si¶su¶se¶so¶ta¶ti¶tu¶te¶to¶na¶ni¶nu¶ne¶no¶ha¶hi" ++
      "¶hu¶he¶ho¶ma¶mi¶mu¶me¶mo¶ya¶yu¶yo¶ra¶ri¶ru¶re¶ro¶wa¶n¶:¶;¶¶g¶gg¶gs¶n¶nj¶nh¶d¶dd¶r¶lg¶lm¶lb¶ls¶lt¶lp¶rh¶m¶b¶bb" ++
      "¶bs¶s¶ss¶¶j¶jj¶c¶k¶t¶p¶h¶¶¶¶a¶ae¶ya¶yae¶eo¶e¶¶¶yeo¶ye¶o¶wa¶wae¶oe¶¶¶yo¶u¶weo¶we¶wi¶yu¶¶¶eu¶yi¶i¶¶¶¶/C¶PS¶!¶-¶|" ++
      "¶Y=¶W¶¶|¶-¶|¶-¶|¶#¶O"),
  (0x1D400, "A¶B¶C¶D¶E¶F¶G¶H¶I¶J¶K¶L¶M¶N¶O¶P¶Q¶R¶S¶T¶U¶V¶W¶X¶Y¶Z¶a¶b¶c¶d¶e¶f¶g¶h¶i¶j¶k¶l¶m¶n¶o¶p¶q¶r¶s¶t¶u¶v¶w¶x¶y¶z¶A¶B¶C¶D" ++
      "¶E¶F¶G¶H¶I¶J¶K¶L¶M¶N¶O¶P¶Q¶R¶S¶T¶U¶V¶W¶X¶Y¶Z¶a¶b¶c¶d¶e¶f¶g¶¶i¶j¶k¶l¶m¶n¶o¶p¶q¶r¶s¶t¶u¶v¶w¶x¶y¶z¶A¶B¶C¶D¶E¶F¶G¶H" ++
      "¶I¶J¶K¶L¶M¶N¶O¶P¶Q¶R¶S¶T¶U¶V¶W¶X¶Y¶Z¶a¶b¶c¶d¶e¶f¶g¶h¶i¶j¶k¶l¶m¶n¶o¶p¶q¶r¶s¶t¶u¶v¶w¶x¶y¶z¶A¶¶C¶D¶¶¶G¶¶¶J¶K¶¶¶N¶O" ++
      "¶P¶Q¶¶S¶T¶U¶V¶W¶X¶Y¶Z¶a¶b¶c¶d¶¶f¶¶h¶i¶j¶k¶l¶m¶n¶¶p¶q¶r¶s¶t¶u¶v¶w¶x¶y¶z¶A¶B¶C¶D¶E¶F¶G¶H¶I¶J¶K¶L¶M¶N¶O¶P¶Q¶R¶S¶T" ++
      "¶U¶V¶W¶X¶Y¶Z¶a¶b¶c¶d¶e¶f¶g¶h¶i¶j¶k¶l¶m¶n¶o¶p¶q¶r¶s¶t¶u¶v¶w¶x¶y¶z¶A¶B¶¶D¶E¶F¶G¶¶¶J¶K¶L¶M¶N¶O¶P¶Q¶¶S¶T¶U¶V¶W¶X¶Y¶" ++
      "¶a¶b¶c¶d¶e¶f¶g¶h¶i¶j¶k¶l¶m¶n¶o¶p¶q¶r¶s¶t¶u¶v¶w¶x¶y¶z¶A¶B¶¶D¶E¶F¶G¶¶I¶J¶K¶L¶M¶¶O¶¶¶¶S¶T¶U¶V¶W¶X¶Y¶¶a¶b¶c¶d¶e¶f¶g" ++
      "¶h¶i¶j¶k¶l¶m¶n¶o¶p¶q¶r¶s¶t¶u¶v¶w¶x¶y¶z¶A¶B¶C¶D¶E¶F¶G¶H¶I¶J¶K¶L¶M¶N¶O¶P¶Q¶R¶S¶T¶U¶V¶W¶X¶Y¶Z¶a¶b¶c¶d¶e¶f¶g¶h¶i¶j" ++
      "¶k¶l¶m¶n¶o¶p¶q¶r¶s¶t¶u¶v¶w¶x¶y¶z¶A¶B¶C¶D¶E¶F¶G¶H¶I¶J¶K¶L¶M¶N¶O¶P¶Q¶R¶S¶T¶U¶V¶W¶X¶Y¶Z¶a¶b¶c¶d¶e¶f¶g¶h¶i¶j¶k¶l¶m" ++
      "¶n¶o¶p¶q¶r¶s¶t¶u¶v¶w¶x¶y¶z¶A¶B¶C¶D¶E¶F¶G¶H¶I¶J¶K¶L¶M¶N¶O¶P¶Q¶R¶S¶T¶U¶V¶W¶X¶Y¶Z¶a¶b¶c¶d¶e¶f¶g¶h¶i¶j¶k¶l¶m¶n¶o¶p" ++
      "¶q¶r¶s¶t¶u¶v¶w¶x¶y¶z¶A¶B¶C¶D¶E¶F¶G¶H¶I¶J¶K¶L¶M¶N¶O¶P¶Q¶R¶S¶T¶U¶V¶W¶X¶Y¶Z¶a¶b¶c¶d¶e¶f¶g¶h¶i¶j¶k¶l¶m¶n¶o¶p¶q¶r¶s" ++
      "¶t¶u¶v¶w¶x¶y¶z¶A¶B¶C¶D¶E¶F¶G¶H¶I¶J¶K¶L¶M¶N¶O¶P¶Q¶R¶S¶T¶U¶V¶W¶X¶Y¶Z¶a¶b¶c¶d¶e¶f¶g¶h¶i¶j¶k¶l¶m¶n¶o¶p¶q¶r¶s¶t¶u¶v" ++
      "¶w¶x¶y¶z¶A¶B¶C¶D¶E¶F¶G¶H¶I¶J¶K¶L¶M¶N¶O¶P¶Q¶R¶S¶T¶U¶V¶W¶X¶Y¶Z¶a¶b¶c¶d¶e¶f¶g¶h¶i¶j¶k¶l¶m¶n¶o¶p¶q¶r¶s¶t¶u¶v¶w¶x¶y" ++
      "¶z¶i¶j¶¶¶A¶V¶G¶D¶E¶Z¶I¶Th¶I¶K¶L¶M¶N¶X¶O¶P¶R¶Th¶S¶T¶Y¶F¶Ch¶Ps¶O¶¶a¶v¶g¶d¶e¶z¶i¶th¶i¶k¶l¶m¶n¶x¶o¶p¶r¶s¶s¶t¶y¶f¶ch" ++
      "¶ps¶o¶¶e¶th¶k¶f¶r¶p¶A¶V¶G¶D¶E¶Z¶I¶Th¶I¶K¶L¶M¶N¶X¶O¶P¶R¶Th¶S¶T¶Y¶F¶Ch¶Ps¶O¶¶a¶v¶g¶d¶e¶z¶i¶th¶i¶k¶l¶m¶n¶x¶o¶p¶r¶s" ++
      "¶s¶t¶y¶f¶ch¶ps¶o¶¶e¶th¶k¶f¶r¶p¶A¶V¶G¶D¶E¶Z¶I¶Th¶I¶K¶L¶M¶N¶X¶O¶P¶R¶Th¶S¶T¶Y¶F¶Ch¶Ps¶O¶¶a¶v¶g¶d¶e¶z¶i¶th¶i¶k¶l¶m" ++
      "¶n¶x¶o¶p¶r¶s¶s¶t¶y¶f¶ch¶ps¶o¶¶e¶th¶k¶f¶r¶p¶A¶V¶G¶D¶E¶Z¶I¶Th¶I¶K¶L¶M¶N¶X¶O¶P¶R¶Th¶S¶T¶Y¶F¶Ch¶Ps¶O¶¶a¶v¶g¶d¶e¶z¶i" ++
      "¶th¶i¶k¶l¶m¶n¶x¶o¶p¶r¶s¶s¶t¶y¶f¶ch¶ps¶o¶¶e¶th¶k¶f¶r¶p¶A¶V¶G¶D¶E¶Z¶I¶Th¶I¶K¶L¶M¶N¶X¶O¶P¶R¶Th¶S¶T¶Y¶F¶Ch¶Ps¶O¶¶a" ++
      "¶v¶g¶d¶e¶z¶i¶th¶i¶k¶l¶m¶n¶x¶o¶p¶r¶s¶s¶t¶y¶f¶ch¶ps¶o¶¶e¶th¶k¶f¶r¶p¶W¶w¶¶¶0¶1¶2¶3¶4¶5¶6¶7¶8¶9¶0¶1¶2¶3¶4¶5¶6¶7¶8¶9" ++
      "¶0¶1¶2¶3¶4¶5¶6¶7¶8¶9¶0¶1¶2¶3¶4¶5¶6¶7¶8¶9¶0¶1¶2¶3¶4¶5¶6¶7¶8¶9"),
  (0x1F000, "1z¶2z¶3z¶4z¶7z¶6z¶5z¶1m¶2m¶3m¶4m¶5m¶6m¶7m¶8m¶9m¶1s¶2s¶3s¶4s¶5s¶6s¶7s¶8s¶9s¶1p¶2p¶3p¶4p¶5p¶6p¶7p¶8p¶9p"),
  (0x1F0A1, "AS¶2S¶3S¶4S¶5S¶6S¶7S¶8S¶9S¶10S¶JS¶CS¶QS¶KS¶¶¶AH¶2H¶3H¶4H¶5H¶6H¶7H¶8H¶9H¶10H¶JH¶CH¶QH¶KH¶¶¶AD¶2D¶3D¶4D¶5D¶6D¶7D" ++
      "¶8D¶9D¶10D¶JD¶CD¶QD¶KD¶black_joker ¶¶AC¶2C¶3C¶4C¶5C¶6C¶7C¶8C¶9C¶10C¶JC¶CC¶QC¶KC"),
  (0x1F100, "0.¶0,¶1,¶2,¶3,¶4,¶5,¶6,¶7,¶8,¶9,¶0¶0¶¶¶¶(A)¶(B)¶(C)¶(D)¶(E)¶(F)¶(G)¶(H)¶(I)¶(J)¶(K)¶(L)¶(M)¶(N)¶(O)¶(P)¶(Q)¶(R)" ++
      "¶(S)¶(T)¶(U)¶(V)¶(W)¶(X)¶(Y)¶(Z)¶S¶C¶R¶CD¶Wz¶¶A¶B¶C¶D¶E¶F¶G¶H¶I¶J¶K¶L¶M¶N¶O¶P¶Q¶R¶S¶T¶U¶V¶W¶X¶Y¶Z¶HV¶MV¶SD¶SS" ++
      "¶PPV¶WC¶A¶B¶C¶D¶E¶F¶G¶H¶I¶J¶K¶L¶M¶N¶O¶P¶Q¶R¶S¶T¶U¶V¶W¶X¶Y¶Z¶MC¶MD¶MR¶¶¶¶A¶B¶C¶D¶E¶F¶G¶H¶I¶J¶K¶L¶M¶N¶O¶P¶Q¶R¶S¶T" ++
      "¶U¶V¶W¶X¶Y¶Z¶P¶IC¶PA¶SA¶AB¶WC¶DJ¶CL¶COOL¶FREE¶ID¶NEW¶NG¶OK¶SOS¶UP!¶VS"),
  (0x1F1E6, "A¶B¶C¶D¶E¶F¶G¶H¶I¶J¶K¶L¶M¶N¶O¶P¶Q¶R¶S¶T¶U¶V¶W¶X¶Y¶Z")
]

/-- The runs with their readings apart. -/
def readings : List (Nat × List String) :=
  openRuns readingRows

/-- The reading of a letter or sign. -/
def alphabetReading? (n : Nat) : Option String :=
  findInRuns? readings n

end PageTemplates.Text.Romanize
